import CameraAcquisition.Proofs.Acquisition.Frames
import CameraAcquisition.Proofs.Sdk.Resources

/-!
# Every step keeps the books of runs

Each step of a thread changes the books of runs (`Bookkept`) in one of a few ways: a host call
that changes nothing they read, or only the prepared frame of an idle controller; a start that
takes the arming flag, hands its run over or gives the flag back; the drop that ends the
controller; the worker's pick-up, its steps within a run, its record of the end and its own
end. One lemma for each, and `Bookkept.call` goes through the program points of a host call
with the lemmas of `Proofs.Acquisition.Steps`.

So every plant reachable from a controller just made keeps the books
(`bookkept_of_reachable`), whatever the outside does to the camera and the host. From the books,
`runs_bookkept` reads the run numbers, the flags and the threads of every reachable plant: the
worker never tears down a run without its frame, and while a run is running no other thread
takes or releases that frame (`Bookkept.others_keep_frame`).

## What this module delivers

- One lemma per kind of change: `Bookkept.neutral`, `.setFrame`, `.arm`, `.disarm`,
  `.handOver`, `.quit`, `.pickUp`, `.exit`, `.moveWorker`, `.record`.
- `Bookkept.call`, `.worker`, `.timer`, `.request`, `.step`; `bookkept_initial`,
  `bookkept_of_reachable`.
- `Bookkept.call_keeps_frame`, `Bookkept.others_keep_frame` and `runs_bookkept`, with its
  instance in the middle of a run `runs_bookkept_running`.
-/

set_option autoImplicit false

namespace CameraAcquisition

namespace Bookkept

variable {p q : Plant} {i : Nat} {x : Call} {r : Caller}

theorem active_false {p : Plant} (ha : p.ctl.isActive = false) :
    p.ctl.arming = false ∧ p.ctl.runRequested = false ∧ p.ctl.running = false := by
  simpa [Controller.isActive, and_assoc] using ha

/-- A host thread in an arming start holds the arming flag, with no run requested or
running. -/
theorem arming_caller (h : Bookkept p) (ha : (p.callers i).isArming = true) :
    p.ctl.arming = true ∧ p.ctl.runRequested = false ∧ p.ctl.running = false := by
  have harm : p.ctl.arming = true := h.armed.arming_iff.2 ⟨i, ha⟩
  exact ⟨harm, h.sound.arming_idle harm⟩

/-- A host thread's step that leaves the run numbers, the flags and the worker alone and
keeps the thread's place in a start or in the drop. -/
theorem neutral (h : Bookkept p) (hc : p.callers i = .busy x) (hq : q.ctl.runs = p.ctl.runs)
    (hw : q.worker = p.worker) (hcl : q.callers = p.callers) (harm : r.isArming = x.isArming)
    (hdrop : r.isDrop = (x.isDrop && r.isBusy))
    (hrel : r = .busy .dropRelease → p.worker = .exited) : Bookkept (q.setCaller i r) := by
  unfold Bookkept
  rw [Plant.setCaller_callers, Plant.setCaller_ctl, Plant.setCaller_worker, hq, hw, hcl]
  exact ⟨h.sound, h.armed.setCaller hc harm, h.working, h.dropping.setCaller hc hdrop hrel⟩

/-- A host thread's step that changes the prepared frame of an idle controller. -/
theorem setFrame (h : Bookkept p) (hc : p.callers i = .busy x) (ha : p.ctl.isActive = false)
    {f : Option Sdk.Frame} (hq : q.ctl.runs = { p.ctl.runs with frame := f })
    (hw : q.worker = p.worker) (hcl : q.callers = p.callers) (harm : r.isArming = x.isArming)
    (hdrop : r.isDrop = (x.isDrop && r.isBusy))
    (hrel : r = .busy .dropRelease → p.worker = .exited) : Bookkept (q.setCaller i r) := by
  obtain ⟨ha, hr, hrun⟩ := active_false ha
  unfold Bookkept
  rw [Plant.setCaller_callers, Plant.setCaller_ctl, Plant.setCaller_worker, hq, hw, hcl]
  exact ⟨h.sound.setFrame ha hr f, h.armed.setCaller hc harm,
    Working.of_not_in_run hrun (h.working.not_in_run hrun),
    (h.dropping.setCaller hc hdrop hrel).congr rfl rfl rfl⟩

/-- A start that passed its checks takes the arming flag. -/
theorem arm (h : Bookkept p) (hc : p.callers i = .busy .start) (ha : p.ctl.isActive = false)
    (hf : p.ctl.frame.isSome) (hq : q.ctl.runs = { p.ctl.runs with arming := true })
    (hw : q.worker = p.worker) (hcl : q.callers = p.callers) (hr : r.isArming = true)
    (hrd : r.isDrop = false) (hrel : r ≠ .busy .dropRelease) : Bookkept (q.setCaller i r) := by
  obtain ⟨ha, hrr, hrun⟩ := active_false ha
  have armed : Armed false p.callers := ha ▸ h.armed
  unfold Bookkept
  rw [Plant.setCaller_callers, Plant.setCaller_ctl, Plant.setCaller_worker, hq, hw, hcl]
  exact ⟨h.sound.arm hrr hrun hf, armed.arm hr, h.working.congr rfl rfl rfl rfl,
    (h.dropping.setCaller hc (by simp [hrd, Call.isDrop]) (fun e => absurd e hrel)).congr rfl rfl
      rfl⟩

/-- A start that gives up or has cancelled its run gives the arming flag back and returns. -/
theorem disarm (h : Bookkept p) {res : Except CameraError Unit} (hc : p.callers i = .busy x)
    (hx : x.isArming = true) (hq : q.ctl.runs = { p.ctl.runs with arming := false })
    (hw : q.worker = p.worker) (hcl : q.callers = p.callers) :
    Bookkept (q.setCaller i (.returned res)) := by
  have hxd : x.isDrop = false := by cases x <;> simp_all [Call.isArming, Call.isDrop]
  have armed : Armed true p.callers := by
    have := h.armed.arming_iff.2 ⟨i, by simp [hc, hx]⟩
    exact this ▸ h.armed
  unfold Bookkept
  rw [Plant.setCaller_callers, Plant.setCaller_ctl, Plant.setCaller_worker, hq, hw, hcl]
  exact ⟨h.sound.disarm, armed.disarm (by simp [hc, hx]) rfl, h.working.congr rfl rfl rfl rfl,
    (h.dropping.setCaller hc (by simp) (by simp)).congr rfl rfl rfl⟩

/-- A start hands its run over: the run is requested under the next number with the start's
trigger thread, and the start no longer arms. -/
theorem handOver (h : Bookkept p) {t : Option Nat} (hc : p.callers i = .busy (.handOver t))
    (hq : q.ctl.runs = { p.ctl.runs with arming := false, runRequested := true,
                                         session := p.ctl.session + 1, timer := t })
    (hw : q.worker = p.worker) (hcl : q.callers = p.callers) (hr : r.isArming = false)
    (hrd : r.isDrop = false) (hrel : r ≠ .busy .dropRelease) : Bookkept (q.setCaller i r) := by
  have hi : (p.callers i).isArming = true := by simp [hc, Call.isArming]
  obtain ⟨ha, -, hrun⟩ := h.arming_caller hi
  have armed : Armed true p.callers := ha ▸ h.armed
  -- an ended worker would mean an ended controller, where only the drop is in a call
  have hex : p.worker ≠ .exited := fun he => by
    have := h.dropping.quit_drop (h.dropping.exited_quit he).1 i (by simp [hc])
    simp [hc, Call.isDrop] at this
  unfold Bookkept
  rw [Plant.setCaller_callers, Plant.setCaller_ctl, Plant.setCaller_worker, hq, hw, hcl]
  exact ⟨h.sound.handOver ha t, armed.disarm (by simp [hc, Call.isArming]) hr,
    Working.of_not_in_run hrun (h.working.not_in_run hrun),
    (h.dropping.setCaller hc (by simp [hrd, Call.isDrop]) (fun e => absurd e hrel)).change hex
      rfl (fun e => absurd e hex) (by simpa using h.dropping.exited_iff)⟩

/-- The drop tells the worker to end. -/
theorem quit (h : Bookkept p) (hc : p.callers i = .busy .dropQuit)
    (hq : q.ctl.runs = { p.ctl.runs with quit := true }) (hw : q.worker = p.worker)
    (hcl : q.callers = p.callers) : Bookkept (q.setCaller i (.busy .dropJoin)) := by
  unfold Bookkept
  rw [Plant.setCaller_callers, Plant.setCaller_ctl, Plant.setCaller_worker, hq, hw, hcl]
  have s := h.sound
  exact ⟨⟨s.1, s.2, s.3, s.4, s.5, s.6, s.7, s.8, s.9⟩, h.armed.setCaller hc rfl,
    h.working.congr rfl rfl rfl rfl, h.dropping.quit hc⟩

/-- The worker picks a requested run up with the prepared frame, never without one. -/
theorem pickUp_acquiring (h : Bookkept p) (hw : p.worker = .idle)
    (hr : p.ctl.runRequested = true) :
    ∃ f, (CameraAcquisition.pickUp p).worker =
      .acquiring ⟨p.ctl.session, p.ctl.timer, p.ctl.params⟩ f 0 .top := by
  have hrun : p.ctl.running = false := by
    simpa [hw, Worker.run?] using h.working.running_eq
  obtain ⟨f, hf⟩ := Option.isSome_iff_exists.1 (by simpa using h.sound.frame_pending hr hrun)
  exact ⟨f, by simp [pickUp_worker, hf]⟩

/-- The worker picks the requested run up, with the prepared frame. -/
theorem pickUp (h : Bookkept p) (hw : p.worker = .idle) (hr : p.ctl.runRequested = true) :
    Bookkept (pickUp p) := by
  obtain ⟨f, hwq⟩ := h.pickUp_acquiring hw hr
  unfold Bookkept
  rw [hwq]
  refine ⟨h.sound.pickUp hr, h.armed, ⟨by simp [Worker.run?], fun r hr => ?_, by simp⟩,
    h.dropping.change (by simp [hw]) rfl (by simp) (by simpa [hw] using h.dropping.exited_iff)⟩
  simp only [Worker.run?, Option.some.injEq] at hr
  subst hr
  simp

/-- The worker ends with the controller, with no run requested. -/
theorem exit (h : Bookkept p) (hw : p.worker = .idle) (hr : p.ctl.runRequested = false)
    (hq : p.ctl.quit = true) :
    Bookkept { p with ctl := { p.ctl with workerExited := true }, worker := .exited } := by
  have hrun : p.ctl.running = false := by
    simpa [hw, Worker.run?] using h.working.running_eq
  have s := h.sound
  exact ⟨⟨s.1, s.2, s.3, s.4, s.5, s.6, s.7, s.8, s.9⟩, h.armed, Working.of_not_in_run hrun rfl,
    h.dropping.change (by simp [hw]) rfl (fun _ => ⟨hq, hr⟩) (by simp)⟩

/-- A step of the worker within its run. -/
theorem moveWorker (h : Bookkept p) (hq : q.ctl.runs = p.ctl.runs) (hcl : q.callers = p.callers)
    (hr : q.worker.run? = p.worker.run?) (hin : p.worker.run?.isSome)
    (hrel : ∀ r o rel st, q.worker = .ending r o rel st → rel = true) : Bookkept q := by
  have hex : ∀ w : Worker, w.run?.isSome → w ≠ .exited := by
    rintro w hs rfl
    simp [Worker.run?] at hs
  unfold Bookkept
  rw [hq, hcl]
  have hflag : p.ctl.workerExited = false := by
    cases he : p.ctl.workerExited
    · rfl
    · exact absurd (h.dropping.exited_iff.1 he) (hex _ hin)
  exact ⟨h.sound, h.armed, h.working.moveWorker hr hrel,
    h.dropping.change (hex _ hin) rfl (fun e => absurd e (hex _ (hr ▸ hin)))
      (by simpa [hflag] using fun e => hex _ (hr ▸ hin) e)⟩

/-- The worker records the end of its run: the run is the last torn down, and the worker
waits for the next one or ends with the controller. -/
theorem record (h : Bookkept p) {run : Run} {o : RunEnd} {rel : Bool}
    (hw : p.worker = .ending run o rel .record) : Bookkept (recordEnd run o p) := by
  have hin : p.worker.run? = some run := by simp [hw, Worker.run?]
  have hrun : p.ctl.running = true := by simpa [hin] using h.working.running_eq
  obtain ⟨hs, -, ht⟩ := h.working.run_current run hin
  -- the worker is in its run, so it has not ended
  have hflag : p.ctl.workerExited = false := by
    cases he : p.ctl.workerExited
    · rfl
    · simp [h.dropping.exited_iff.1 he] at hw
  have hq : (recordEnd run o p).ctl.runs =
      { p.ctl.runs with running := false, runRequested := false,
                        completedSession := p.ctl.session, workerExited := p.ctl.quit } := by
    simp [Controller.runs, hs, hflag]
  have hout : (recordEnd run o p).worker.run? = none := by
    by_cases hq : p.ctl.quit <;> simp [hq, Worker.run?]
  unfold Bookkept
  rw [hq, recordEnd_callers]
  have s := h.sound.record (by simpa using hrun) (by simpa using ht)
  refine ⟨⟨s.1, s.2, s.3, s.4, s.5, s.6, s.7, s.8, s.9⟩, h.armed,
    Working.of_not_in_run rfl hout, h.dropping.change (by simp [hw]) rfl (fun he => ?_) ?_⟩
  · have hquit : p.ctl.quit = true := by
      by_contra hn
      simp [hn] at he
    exact ⟨by simpa using hquit, rfl⟩
  · by_cases hquit : p.ctl.quit <;> simp [hquit]

/-- Before the end of the controller the worker has not ended. -/
theorem workerExited_false (h : Bookkept p) (hq : p.ctl.quit = false) :
    p.ctl.workerExited = false := by
  cases he : p.ctl.workerExited
  · rfl
  · have hquit : p.ctl.quit = true := (h.dropping.exited_quit (h.dropping.exited_iff.1 he)).1
    simp [hquit] at hq

/-- With no run requested or running, and the controller not ending, the worker waits. -/
theorem worker_waits (h : Bookkept p) (hr : p.ctl.runRequested = false)
    (hrun : p.ctl.running = false) (hq : p.ctl.quit = false) {pat : Bool} :
    Worker.step pat p = none := by
  have hout := h.working.not_in_run hrun
  cases hw : p.worker with
  | idle => simp [Worker.step, hw, hr, hq]
  | acquiring run f n spot => simp [hw, Worker.run?] at hout
  | ending run o rel st => simp [hw, Worker.run?] at hout
  | exited => exact Worker.step_exited hw

/-- Every step of the worker keeps the books. -/
theorem worker (h : Bookkept p) {pat : Bool} (hs : Worker.step pat p = some q) : Bookkept q := by
  cases hw : p.worker with
  | idle =>
    rcases Worker.step_idle hw hs with ⟨hr, rfl⟩ | ⟨hr, hq, rfl⟩
    · exact h.pickUp hw hr
    · exact h.exit hw hr hq
  | acquiring run f n spot =>
    obtain ⟨hc, hcl, -, hw'⟩ := Worker.acquireStep_frame (Worker.step_acquiring hw hs)
    have hq : q.ctl.runs = p.ctl.runs := by rw [hc]; rfl
    refine h.moveWorker hq hcl ?_ (by simp [hw, Worker.run?]) ?_ <;>
      rcases hw' with ⟨f', n', spot', e⟩ | ⟨o, e⟩ <;> simp [e, hw, Worker.run?]
  | ending run o rel st =>
    have hrel := h.working.ending_releases run o rel st hw
    have hin : p.worker.run?.isSome := by simp [hw, Worker.run?]
    rcases Worker.endStep_eq (Worker.step_ending hw hs) with
      ⟨rfl, rfl⟩ | ⟨rfl, -, rfl⟩ | ⟨rfl, rfl⟩ | ⟨rfl, rfl⟩
    · exact h.moveWorker (by simp) (by simp) (by simp [hw, Worker.run?]) hin (by simp [hrel])
    · exact h.moveWorker rfl rfl (by simp [hw, Worker.run?]) hin (by simp [hrel])
    · exact h.moveWorker rfl rfl (by simp [hw, Worker.run?]) hin (by simp [hrel])
    · exact h.record hw
  | exited => simp [Worker.step_exited hw] at hs

/-- A trigger thread moves nothing the books read. -/
theorem timer (h : Bookkept p) {i : Nat} (hs : Timer.step i p = some q) : Bookkept q := by
  obtain ⟨hc, hw, hcl, -⟩ := Timer.step_frame hs
  unfold Bookkept
  rw [hc, hw, hcl]
  exact h

/-- A request puts a host thread that is not in a call at the start of its call. -/
theorem request (h : Bookkept p) {rq : Request} (hm : mayRequest p i rq) :
    Bookkept (p.setCaller i (.busy rq.call)) := by
  obtain ⟨hidle, hq, hnodrop, halone⟩ := hm
  have hnodrop' : ∀ j, (p.callers j).isDrop = false := by
    intro j
    cases hj : p.callers j with
    | busy c => simpa using hnodrop j c hj
    | _ => rfl
  have harm : ∀ j, (Function.update p.callers i (.busy rq.call) j).isArming =
      (p.callers j).isArming := by
    intro j
    by_cases hji : j = i
    · subst hji
      have : (p.callers j).isArming = false := by
        cases hj : p.callers j <;> simp_all
      rw [this]
      cases rq <;> simp [Request.call, Call.isArming]
    · simp [hji]
  unfold Bookkept
  rw [Plant.setCaller_callers, Plant.setCaller_ctl, Plant.setCaller_worker]
  refine ⟨h.sound, ?_, h.working, h.dropping.request hq hnodrop' halone⟩
  exact ⟨by simpa only [harm] using h.armed.arming_iff,
    by simpa only [harm] using h.armed.arming_unique⟩

/-- A step of a stop that ends with `a`: it leaves the run numbers, the flags and the worker
alone, and its host thread goes where such a stop goes. -/
theorem neutral_stop (h : Bookkept p) {a : AfterStop} (hc : p.callers i = .busy x)
    (hx : x.isArming = false ∧ x.isDrop = decide (a = .drop)) (hr : StopsAs a r)
    (hq : q.ctl.runs = p.ctl.runs) (hw : q.worker = p.worker) (hcl : q.callers = p.callers) :
    Bookkept (q.setCaller i r) :=
  h.neutral hc hq hw hcl (by rw [hr.1, hx.1]) (by rw [hr.2.1, hx.2])
    (fun e => absurd e hr.2.2)

theorem stopUnlessIdle_frame (a : AfterStop) :
    ((Acquisition.stopUnlessIdle a).run' p).2.ctl.runs = p.ctl.runs ∧
      ((Acquisition.stopUnlessIdle a).run' p).2.worker = p.worker ∧
      ((Acquisition.stopUnlessIdle a).run' p).2.callers = p.callers := by
  rw [Acquisition.stopUnlessIdle_plant]
  split <;> exact ⟨rfl, rfl, rfl⟩

/-- The drop releases the frame of an idle controller: the worker has ended, so no run is
requested or running, and the drop runs alone, so no start is arming. -/
theorem dropRelease_idle (h : Bookkept p) (hc : p.callers i = .busy .dropRelease) :
    p.ctl.isActive = false := by
  have hw := h.dropping.release_exited i hc
  have hr : p.ctl.runRequested = false := by simpa using (h.dropping.exited_quit hw).2
  have hrun : p.ctl.running = false := by simpa [hw, Worker.run?] using h.working.running_eq
  have ha : p.ctl.arming = false := by
    cases ha : p.ctl.arming
    · rfl
    · obtain ⟨j, hj⟩ := h.armed.arming_iff.1 ha
      by_cases hji : j = i
      · subst hji; simp [hc, Call.isArming] at hj
      · have := h.dropping.drop_alone i j (by simp [hc, Call.isDrop]) hji
        simp [Caller.isBusy_of_isArming hj] at this
  simp [Controller.isActive, ha, hr, hrun]

/-- Every step of a host call keeps the books. -/
theorem call (h : Bookkept p) {e : Bool} {s : Except CameraError Unit} {c : Call}
    (hc : p.callers i = .busy c) (hs : Acquisition.Call.step e s c p = some (r, q)) :
    Bookkept (q.setCaller i r) := by
  open Acquisition in
  cases c with
  | prepare =>
    rcases Call.step_prepare hs with ⟨-, rfl, rfl⟩ | ⟨ha, ⟨res, rfl⟩, sim, cold, f, rfl, -⟩
    · exact h.neutral hc rfl rfl rfl rfl (by simp) (by simp)
    · exact h.setFrame hc ha rfl rfl rfl rfl (by simp) (by simp)
  | releaseBuffer =>
    rcases Call.step_releaseBuffer hs with ⟨-, rfl, rfl⟩ | ⟨ha, ⟨res, rfl⟩, rfl⟩
    · exact h.neutral hc rfl rfl rfl rfl (by simp) (by simp)
    · split
      · exact h.setFrame hc ha rfl rfl rfl rfl (by simp) (by simp)
      · exact h.neutral hc rfl rfl rfl rfl (by simp) (by simp)
  | update f =>
    obtain ⟨rfl, rfl⟩ := Call.step_update hs
    exact h.neutral hc rfl rfl rfl rfl (by simp) (by simp)
  | start =>
    rcases Call.step_start hs with ⟨-, ha, hf, -, rfl, rfl⟩ | ⟨rfl, rfl⟩
    · exact h.arm hc ha hf rfl rfl rfl rfl rfl (by simp)
    · exact h.neutral hc rfl rfl rfl rfl (by simp) (by simp)
  | armCapture params =>
    obtain ⟨rfl, ⟨u, -, rfl⟩ | ⟨err, -, rfl⟩⟩ := Call.step_armCapture hs
    · exact h.neutral hc rfl rfl rfl (by split <;> rfl) (by split <;> rfl) (by split <;> simp)
    · exact h.neutral hc rfl rfl rfl rfl rfl (by simp)
  | settling params =>
    obtain ⟨-, rfl, rfl⟩ := Call.step_settling hs
    exact h.neutral hc rfl rfl rfl (by split <;> rfl) (by split <;> rfl) (by split <;> simp)
  | armTimer params =>
    rcases Call.step_armTimer hs with ⟨-, rfl, rfl⟩ | ⟨-, -, rfl, rfl⟩ | ⟨-, err, -, rfl, rfl⟩ <;>
      exact h.neutral hc rfl rfl rfl rfl rfl (by simp)
  | handOver t =>
    rcases Call.step_handOver hs with ⟨-, rfl, rfl⟩ | ⟨-, rfl, hr⟩
    · exact h.neutral hc rfl rfl rfl rfl rfl (by simp)
    · rcases hr with rfl | rfl | rfl <;> exact h.handOver hc rfl rfl rfl rfl rfl (by simp)
  | awaitAck n =>
    obtain ⟨rfl, ⟨-, rfl⟩ | ⟨-, -, rfl⟩⟩ := Call.step_awaitAck hs <;>
      exact h.neutral hc rfl rfl rfl rfl (by simp) (by simp)
  | cancelling t st =>
    rcases Call.step_cancelling hs with ⟨rfl, rfl, rfl⟩ | ⟨rfl, -, rfl, rfl⟩ | ⟨rfl, rfl, rfl⟩ |
      ⟨rfl, rfl, rfl⟩
    · exact h.neutral hc (by simp) (by simp) (by simp) rfl rfl (by simp)
    · exact h.neutral hc rfl rfl rfl rfl rfl (by simp)
    · exact h.neutral hc (by simp) (by simp) (by simp) rfl rfl (by simp)
    · exact h.disarm hc rfl rfl rfl rfl
  | failArming err =>
    obtain ⟨rfl, rfl⟩ := Call.step_failArming hs
    exact h.disarm hc rfl rfl rfl rfl
  | stop a =>
    have hx : (Call.stop a).isArming = false ∧ (Call.stop a).isDrop = decide (a = .drop) := by
      cases a <;> simp [Call.isArming, Call.isDrop]
    rcases Call.step_stop hs with ⟨-, rfl, rfl⟩ | ⟨-, rfl, rfl⟩
    · refine h.neutral_stop hc hx ?_ rfl rfl rfl
      cases a <;> simp [StopsAs, Call.isArming, Call.isDrop]
    · obtain ⟨hq, hw, hcl⟩ := stopUnlessIdle_frame (p := p) a
      exact h.neutral_stop hc hx (stopUnlessIdle_stopsAs a) hq hw hcl
  | stopAwaitArming a =>
    have hx : (Call.stopAwaitArming a).isArming = false ∧
        (Call.stopAwaitArming a).isDrop = decide (a = .drop) := by
      cases a <;> simp [Call.isArming, Call.isDrop]
    obtain ⟨-, rfl, rfl⟩ := Call.step_stopAwaitArming hs
    obtain ⟨hq, hw, hcl⟩ := stopUnlessIdle_frame (p := p) a
    exact h.neutral_stop hc hx (stopUnlessIdle_stopsAs a) hq hw hcl
  | stopAbort a n =>
    have hx : (Call.stopAbort a n).isArming = false ∧
        (Call.stopAbort a n).isDrop = decide (a = .drop) := by
      cases a <;> simp [Call.isArming, Call.isDrop]
    obtain ⟨rfl, ⟨-, rfl⟩ | ⟨-, rfl⟩⟩ := Call.step_stopAbort hs
    · exact h.neutral_stop hc hx (afterStop_stopsAs a _) rfl rfl rfl
    · refine h.neutral_stop hc hx ?_ rfl rfl rfl
      cases a <;> simp [StopsAs, Call.isArming, Call.isDrop]
  | stopPause a n =>
    have hx : (Call.stopPause a n).isArming = false ∧
        (Call.stopPause a n).isDrop = decide (a = .drop) := by
      cases a <;> simp [Call.isArming, Call.isDrop]
    obtain ⟨-, rfl, rfl⟩ := Call.step_stopPause hs
    exact h.neutral_stop hc hx (stopLoop_stopsAs a n) (by rw [stopLoop_plant])
      (by rw [stopLoop_plant]) (by rw [stopLoop_plant])
  | resetForce =>
    obtain ⟨rfl, rfl⟩ := Call.step_resetForce hs
    exact h.neutral hc rfl rfl rfl rfl rfl (by simp)
  | dropQuit =>
    obtain ⟨rfl, rfl⟩ := Call.step_dropQuit hs
    exact h.quit hc rfl rfl rfl
  | dropJoin =>
    obtain ⟨hw, rfl, rfl⟩ := Call.step_dropJoin hs
    exact h.neutral hc rfl rfl rfl rfl rfl (fun _ => hw)
  | dropRelease =>
    obtain ⟨rfl, rfl⟩ := Call.step_dropRelease hs
    exact h.setFrame hc (h.dropRelease_idle hc) rfl rfl rfl rfl (by simp) (by simp)
  | setRoi attr =>
    rcases Call.step_setRoi hs with ⟨-, rfl, rfl⟩ | ⟨ha, hr, rfl⟩
    · exact h.neutral hc rfl rfl rfl rfl (by simp) (by simp)
    · have hcls : r.isArming = false ∧ r.isDrop = false ∧ r ≠ .busy .dropRelease := by
        rcases hr with rfl | ⟨err, rfl⟩ <;> simp [Call.isArming, Call.isDrop]
      split
      · exact h.setFrame hc ha rfl rfl rfl hcls.1 (by simp [hcls.2.1, Call.isDrop])
          (fun e => absurd e hcls.2.2)
      · exact h.neutral hc rfl rfl rfl hcls.1 (by simp [hcls.2.1, Call.isDrop])
          (fun e => absurd e hcls.2.2)
  | programRoi attr =>
    obtain ⟨rfl, rfl⟩ := Call.step_programRoi hs
    exact h.neutral hc rfl rfl rfl rfl (by simp) (by simp)

/-- Every step keeps the books. -/
theorem step (h : Bookkept p) {env : Bool} {a : Actor} (hs : Transition env p a q) :
    Bookkept q := by
  cases hs with
  | request i rq hm => exact h.request hm
  | call i e s hc hs => exact h.call hc hs
  | worker hs => exact h.worker hs
  | timer i hs => exact h.timer hs
  | outside sim host _ => exact h

end Bookkept

theorem bookkept_initial (params : AcqParams) (timings : Timings) (deviceIndex : Nat)
    (sim : Sdk.Simulator) (host : Host) :
    Bookkept (Plant.initial params timings deviceIndex sim host) := by
  refine ⟨⟨?_, ?_, ?_, ?_, ?_, ?_, ?_, ?_, ?_⟩, ⟨?_, ?_⟩, ⟨?_, ?_, ?_⟩, ⟨?_, ?_, ?_, ?_, ?_⟩⟩ <;>
    simp [Plant.initial, Controller.make, Controller.runs, Worker.run?]

/-- Every plant reachable from a controller just made keeps the books. -/
theorem bookkept_of_reachable {env : Bool} {params : AcqParams} {timings : Timings}
    {deviceIndex : Nat} {sim : Sdk.Simulator} {host : Host} {p : Plant}
    (h : Reachable env (Plant.initial params timings deviceIndex sim host) p) : Bookkept p := by
  induction h with
  | init => exact bookkept_initial params timings deviceIndex sim host
  | step _ hs ih => exact ih.step hs

namespace Bookkept

variable {p q : Plant} {i : Nat} {r : Caller}

open Sdk.Simulator in
/-- While a run is running, a step of a host call leaves the worker and the prepared frame
alone and neither allocates nor releases the SDK frame buffer. -/
theorem call_keeps_frame (h : Bookkept p) {e : Bool} {s : Except CameraError Unit} {c : Call}
    (hc : p.callers i = .busy c) (hs : Acquisition.Call.step e s c p = some (r, q))
    (hrun : p.ctl.running = true) :
    q.worker = p.worker ∧ q.ctl.frame = p.ctl.frame ∧ SameBuffer p.sim q.sim := by
  open Acquisition in
  have hact : p.ctl.isActive = true := by simp [Controller.isActive, hrun]
  cases c with
  | prepare =>
    rcases Call.step_prepare hs with ⟨-, -, rfl⟩ | ⟨ha, -⟩
    · exact ⟨rfl, rfl, SameBuffer.refl _⟩
    · simp [hact] at ha
  | releaseBuffer =>
    rcases Call.step_releaseBuffer hs with ⟨-, -, rfl⟩ | ⟨ha, -⟩
    · exact ⟨rfl, rfl, SameBuffer.refl _⟩
    · simp [hact] at ha
  | setRoi attr =>
    rcases Call.step_setRoi hs with ⟨-, -, rfl⟩ | ⟨ha, -⟩
    · exact ⟨rfl, rfl, SameBuffer.refl _⟩
    · simp [hact] at ha
  | dropRelease =>
    have hw := h.dropping.release_exited i hc
    have := h.working.running_eq
    simp [hw, Worker.run?, hrun] at this
  | update f =>
    obtain ⟨-, rfl⟩ := Call.step_update hs
    exact ⟨rfl, rfl, SameBuffer.refl _⟩
  | start =>
    rcases Call.step_start hs with ⟨-, -, -, -, -, rfl⟩ | ⟨-, rfl⟩ <;>
      exact ⟨rfl, rfl, SameBuffer.refl _⟩
  | armCapture params =>
    obtain ⟨rfl, -⟩ := Call.step_armCapture hs
    exact ⟨rfl, rfl, sameBuffer_capStart _ _⟩
  | settling params =>
    obtain ⟨-, rfl, -⟩ := Call.step_settling hs
    exact ⟨rfl, rfl, SameBuffer.refl _⟩
  | armTimer params =>
    rcases Call.step_armTimer hs with ⟨-, rfl, -⟩ | ⟨-, -, rfl, -⟩ | ⟨-, -, -, rfl, -⟩
    · exact ⟨rfl, rfl, SameBuffer.refl _⟩
    · exact ⟨rfl, rfl, SameBuffer.refl _⟩
    · exact ⟨rfl, rfl, sameBuffer_capStop _⟩
  | handOver t =>
    rcases Call.step_handOver hs with ⟨-, -, rfl⟩ | ⟨-, rfl, -⟩ <;>
      exact ⟨rfl, rfl, SameBuffer.refl _⟩
  | awaitAck n =>
    obtain ⟨rfl, -⟩ := Call.step_awaitAck hs
    exact ⟨rfl, rfl, SameBuffer.refl _⟩
  | cancelling t st =>
    rcases Call.step_cancelling hs with ⟨-, rfl, -⟩ | ⟨-, -, rfl, -⟩ | ⟨-, rfl, -⟩ | ⟨-, -, rfl⟩
    · exact ⟨by simp, by simp, by simpa using SameBuffer.refl p.sim⟩
    · exact ⟨rfl, rfl, SameBuffer.refl _⟩
    · exact ⟨rfl, rfl, sameBuffer_capStop _⟩
    · exact ⟨rfl, rfl, SameBuffer.refl _⟩
  | failArming err =>
    obtain ⟨-, rfl⟩ := Call.step_failArming hs
    exact ⟨rfl, rfl, SameBuffer.refl _⟩
  | stop a =>
    rcases Call.step_stop hs with ⟨-, -, rfl⟩ | ⟨-, -, rfl⟩
    · exact ⟨rfl, rfl, SameBuffer.refl _⟩
    · rw [stopUnlessIdle_plant]
      split <;> exact ⟨rfl, rfl, SameBuffer.refl _⟩
  | stopAwaitArming a =>
    obtain ⟨-, -, rfl⟩ := Call.step_stopAwaitArming hs
    rw [stopUnlessIdle_plant]
    split <;> exact ⟨rfl, rfl, SameBuffer.refl _⟩
  | stopAbort a n =>
    obtain ⟨rfl, -⟩ := Call.step_stopAbort hs
    exact ⟨rfl, rfl, sameBuffer_of_holdings _ (holdings_abortWait _)⟩
  | stopPause a n =>
    obtain ⟨-, -, rfl⟩ := Call.step_stopPause hs
    rw [stopLoop_plant]
    exact ⟨rfl, rfl, SameBuffer.refl _⟩
  | resetForce =>
    obtain ⟨-, rfl⟩ := Call.step_resetForce hs
    exact ⟨rfl, rfl, SameBuffer.refl _⟩
  | dropQuit =>
    obtain ⟨-, rfl⟩ := Call.step_dropQuit hs
    exact ⟨rfl, rfl, SameBuffer.refl _⟩
  | dropJoin =>
    obtain ⟨-, -, rfl⟩ := Call.step_dropJoin hs
    exact ⟨rfl, rfl, SameBuffer.refl _⟩
  | programRoi attr =>
    obtain ⟨-, rfl⟩ := Call.step_programRoi hs
    exact ⟨rfl, rfl, sameBuffer_of_holdings _ (holdings_setRoi _ _)⟩

open Sdk.Simulator in
/-- While a run is running, a step of a host thread or a trigger thread leaves the worker and
the prepared frame alone and neither allocates nor releases the SDK frame buffer. -/
theorem others_keep_frame (h : Bookkept p) {env : Bool} {a : Actor}
    (hs : Transition env p a q)
    (hw : a ≠ .worker) (ho : a ≠ .outside) (hrun : p.ctl.running = true) :
    q.worker = p.worker ∧ q.ctl.frame = p.ctl.frame ∧ SameBuffer p.sim q.sim := by
  cases hs with
  | request i rq hm => exact ⟨rfl, rfl, SameBuffer.refl _⟩
  | call i e s hc hs =>
    have hk := h.call_keeps_frame hc hs hrun
    exact hk
  | worker hs => exact absurd rfl hw
  | timer i hs =>
    obtain ⟨t, -, ⟨-, rfl⟩ | ⟨-, -, rfl⟩ | ⟨-, -, rfl⟩⟩ := Timer.step_eq hs
    · exact ⟨rfl, rfl, SameBuffer.refl _⟩
    · exact ⟨rfl, rfl, sameBuffer_of_holdings _ (holdings_doSoftwareTrigger _)⟩
    · exact ⟨rfl, rfl, SameBuffer.refl _⟩
  | outside sim host _ => exact absurd rfl ho

end Bookkept

/-- In every plant that an interleaving of host calls, worker and trigger threads reaches from a
controller just made, whatever the outside does to the camera and the host: the run numbers
keep `completed ≤ acked ≤ session ≤ completed + 1` and are level exactly when no run is
requested or running; a running run is requested and acknowledged; the arming flag excludes a
requested or running run and is held by exactly one host thread in a start; a trigger thread
waits in the controller only for a run requested and not yet running; a requested run not yet
running has the prepared frame. So the worker never tears down a run without its frame, the
frame of a running run is out of the controller's hands, and no other thread takes or releases
it while the run lasts. -/
theorem runs_bookkept {env : Bool} {params : AcqParams} {timings : Timings} {deviceIndex : Nat}
    {sim : Sdk.Simulator} {host : Host} {p : Plant}
    (h : Reachable env (Plant.initial params timings deviceIndex sim host) p) :
    (p.ctl.completedSession ≤ p.ctl.ackedSession ∧ p.ctl.ackedSession ≤ p.ctl.session ∧
      p.ctl.session ≤ p.ctl.completedSession + 1) ∧
    (p.ctl.session = p.ctl.completedSession ↔
      p.ctl.runRequested = false ∧ p.ctl.running = false) ∧
    (p.ctl.running = true → p.ctl.runRequested = true ∧ p.ctl.ackedSession = p.ctl.session) ∧
    (p.ctl.arming = true → p.ctl.runRequested = false ∧ p.ctl.running = false) ∧
    (p.ctl.arming = true ↔ ∃ i c, p.callers i = .busy c ∧ c.isArming = true) ∧
    (∀ i j c d, p.callers i = .busy c → c.isArming = true → p.callers j = .busy d →
      d.isArming = true → i = j) ∧
    (p.ctl.timer.isSome → p.ctl.runRequested = true ∧ p.ctl.running = false) ∧
    (p.ctl.runRequested = true → p.ctl.running = false → p.ctl.frame.isSome) ∧
    (∀ run outcome stage, p.worker ≠ .ending run outcome false stage) ∧
    (p.isRunning = true → p.ctl.frame = none) ∧
    (∀ a q, Transition env p a q → a ≠ .worker → a ≠ .outside → p.isRunning = true →
      q.worker = p.worker ∧ q.ctl.frame = none ∧ q.sim.allocated = p.sim.allocated ∧
      q.sim.stats.bufAllocs = p.sim.stats.bufAllocs ∧
      q.sim.stats.bufReleases = p.sim.stats.bufReleases) := by
  have hb := bookkept_of_reachable h
  obtain ⟨s1, s2, s3, s4, s5, s6, -, s8, s9⟩ := hb.sound
  have harm : ∀ i, (p.callers i).isArming = true ↔ ∃ c, p.callers i = .busy c ∧ c.isArming := by
    intro i
    cases p.callers i <;> simp
  -- a running run holds the controller's frame away from it
  have hfree : p.isRunning = true → p.ctl.frame = none := by
    intro hr
    rw [Plant.isRunning_eq, Option.isSome_iff_exists] at hr
    obtain ⟨r, hr⟩ := hr
    simpa using (hb.working.run_current r hr).2.1
  have hrunning : p.isRunning = true → p.ctl.running = true := by
    intro hr
    have hw := hb.working.running_eq
    rw [← Plant.isRunning_eq, hr] at hw
    exact hw
  refine ⟨⟨s1, s2, s3⟩, s4, s5, s6, ?_, ?_, s8, s9, ?_, hfree, ?_⟩
  · simpa [harm] using hb.armed.arming_iff
  · intro i j c d hi hc hj hd
    exact hb.armed.arming_unique i j (by simp [hi, hc]) (by simp [hj, hd])
  · intro run outcome stage he
    simpa using hb.working.ending_releases run outcome false stage he
  · intro a q hs hw ho hr
    obtain ⟨hqw, hqf, hbuf⟩ := hb.others_keep_frame hs hw ho (hrunning hr)
    exact ⟨hqw, hqf.trans (hfree hr), hbuf.allocated, hbuf.bufAllocs, hbuf.bufReleases⟩

/-- The books in the middle of a run: one host thread prepares and starts a run on an opened
default camera, and the worker has picked it up. -/
theorem runs_bookkept_running :
    ∃ p, Reachable false (Plant.onOpenedCamera AcqParams.default) p ∧
    p.ctl.running = true ∧ p.isRunning = true ∧ p.ctl.session = 1 ∧
    (p.ctl.completedSession ≤ p.ctl.ackedSession ∧ p.ctl.ackedSession ≤ p.ctl.session ∧
      p.ctl.session ≤ p.ctl.completedSession + 1) ∧
    (p.ctl.session = p.ctl.completedSession ↔
      p.ctl.runRequested = false ∧ p.ctl.running = false) ∧
    (p.ctl.running = true → p.ctl.runRequested = true ∧ p.ctl.ackedSession = p.ctl.session) ∧
    (p.ctl.arming = true → p.ctl.runRequested = false ∧ p.ctl.running = false) ∧
    (p.ctl.arming = true ↔ ∃ i c, p.callers i = .busy c ∧ c.isArming = true) ∧
    (∀ i j c d, p.callers i = .busy c → c.isArming = true → p.callers j = .busy d →
      d.isArming = true → i = j) ∧
    (p.ctl.timer.isSome → p.ctl.runRequested = true ∧ p.ctl.running = false) ∧
    (p.ctl.runRequested = true → p.ctl.running = false → p.ctl.frame.isSome) ∧
    (∀ run outcome stage, p.worker ≠ .ending run outcome false stage) ∧
    (p.isRunning = true → p.ctl.frame = none) ∧
    (∀ a q, Transition false p a q → a ≠ .worker → a ≠ .outside → p.isRunning = true →
      q.worker = p.worker ∧ q.ctl.frame = none ∧ q.sim.allocated = p.sim.allocated ∧
      q.sim.stats.bufAllocs = p.sim.stats.bufAllocs ∧
      q.sim.stats.bufReleases = p.sim.stats.bufReleases) := by
  have h : Reachable false _ _ := Reachable.of_runAlone
    (rfl : (Plant.onOpenedCamera AcqParams.default).runAlone (fun _ _ _ => false)
      Move.beginRun = some (0, _))
  exact ⟨_, h, by decide +kernel, by decide +kernel, by decide +kernel, runs_bookkept h⟩

end CameraAcquisition
