import CameraAcquisition.Proofs.Acquisition.Feeding

/-!
# Software triggers

`Ledger` says that whoever holds the capture is owed what `Plant.Feeds` says, and that a
start's capture runs in the mode of its parameters. Every step without interference from
outside keeps it (`Ledger.step`). A start answers alone while it arms, a run handed over while
it waits to be picked up, and the worker while the run runs (`Ledger.of_arming`,
`Ledger.of_pending`, `Ledger.of_running`); a step that moves nobody who answers keeps the
ledger as it was (`Ledger.of_calm`). The start starts its thread only after its capture start,
and for an internally triggered run in software trigger mode, with nothing pending; a frame
delivered takes a pending trigger as it adds one to the frame count; and a trigger thread alive
is answered for (`Resourced`), so its holder's camera captures in software trigger mode and
takes the trigger, one more pending as one more fired.

So every trigger a thread fires goes through, and once a run has taken the frames its thread is
to fire, the thread has fired them all and none is pending (`software_triggers_accounted`).

## What this module delivers

- `Ledger` with `Ledger.step` and `Ledger.of_reachable`.
- `Ledger.trigger_goes_through`, `Ledger.frames_taken`, `Ledger.target_reached`,
  `Transition.triggers_fired`, `Transition.thread_start` and `Transition.timer_started`.
- `software_triggers_accounted`, with its instance in a run `software_triggers_accounted_in_run`.
-/

set_option autoImplicit false

namespace CameraAcquisition

/-! ## The ledger of triggers -/

section Frames

variable {run : Run} {f : Sdk.Frame} {k : Nat} {p : Plant}

theorem afterFrame_frameCount {kg : Bool} :
    (afterFrame run f k kg p).ctl.frameCount = p.ctl.frameCount := by
  rw [afterFrame_eq]
  split_ifs <;> rfl

/-- A frame received is counted: the frame count names the next frame. -/
theorem received_frameCount : (received run f k p).ctl.frameCount = k + 1 := by
  rw [received_eq]
  dsimp only
  split_ifs
  · rfl
  · rw [afterFrame_frameCount]

theorem afterFrame_heldTriggers {kg : Bool} :
    (afterFrame run f k kg p).worker.heldTriggers = 0 := by
  rw [afterFrame_eq]
  split_ifs <;> rfl

/-- A frame received leaves the worker's wait, with no trigger held. -/
theorem received_heldTriggers : (received run f k p).worker.heldTriggers = 0 := by
  rw [received_eq]
  dsimp only
  split_ifs
  · rfl
  · exact afterFrame_heldTriggers

/-- On a camera in software trigger mode a step of the frame loop counts a frame only for a
trigger its wait took, and takes a trigger only into its wait: the frames taken, the triggers
pending and the trigger held never count more after it. -/
theorem Worker.acquireStep_triggers {spot : Spot} {n : Nat} {pat : Bool} {q : Plant}
    (hwc : p.WaitsCounted) (hw : p.worker = .acquiring run f n spot)
    (hcap : p.sim.capture = some .triggerSoftware)
    (h : Worker.acquireStep pat run f n spot p = some q) :
    q.ctl.frameCount + q.sim.pendingTriggers + q.worker.heldTriggers ≤
      p.ctl.frameCount + p.sim.pendingTriggers + p.worker.heldTriggers := by
  have hph : p.worker.heldTriggers = spot.pastTrigger.toNat := by rw [hw]; rfl
  rw [hph]
  cases spot with
  | top =>
    rcases Worker.acquireStep_top h with ⟨-, rfl⟩ | ⟨-, -, -, rfl⟩ | ⟨-, -, rfl⟩ <;>
      simp [Worker.heldTriggers, Spot.pastTrigger]
  | waiting m | paused m _ =>
    obtain ⟨pr, hm, hq⟩ := Worker.acquireStep_waits rfl h
    have hk : m = p.ctl.frameCount := hwc run f n _ m hw rfl
    have ht := Spot.triggers_waitMove hcap hm
    rcases Worker.waitProgress_cases hq with ⟨g, he, rfl⟩ | ⟨err, he, -, rfl⟩ |
      ⟨err, he, -, -, -, rfl⟩ | ⟨err, he, -, -, rfl⟩ | ⟨pause, he, rfl⟩
    · -- the frame received is counted, for the trigger the wait held
      rw [he] at ht
      simp only [Sdk.Progress.pastTrigger_returned, Sdk.Progress.delivers_captured,
        Bool.toNat_false, Bool.toNat_true] at ht
      simp only [received_frameCount, received_heldTriggers, received_sim]
      omega
    all_goals
      rw [he] at ht
      simp only [Sdk.Progress.pastTrigger_returned, Sdk.Progress.pastTrigger_paused,
        Sdk.Progress.delivers_failed, Sdk.Progress.delivers_paused, Bool.toNat_false] at ht
      simp only [Plant.setWorker_ctl, Plant.setWorker_sim, Plant.setWorker_worker,
        Worker.heldTriggers, Spot.pastTrigger, Bool.toNat_false] at ht ⊢
      omega
  | latency =>
    rw [Worker.acquireStep_latency h]
    simp [Worker.heldTriggers, Spot.pastTrigger]
  | holding m kg =>
    obtain ⟨-, rfl⟩ := Worker.acquireStep_holding h
    rw [afterFrame_frameCount, afterFrame_heldTriggers, afterFrame_sim]
    simp [Spot.pastTrigger]

end Frames

/-- Whoever holds the capture is owed what `Plant.Feeds` says, and a start's capture runs in the
capture mode of its parameters. -/
structure Ledger (p : Plant) : Prop where
  fed : ∀ t n, p.Feeding t n → p.Feeds t n
  armed : ∀ i ps, (p.callers i = .busy (.settling ps) ∨ p.callers i = .busy (.armTimer ps)) →
    p.sim.capture = some ps.captureMode

namespace Ledger

variable {p q : Plant}

/-- A start at its settle pause or about to start its thread arms. -/
theorem isArming_of_armed {c : Caller} {ps : AcqParams}
    (h : c = .busy (.settling ps) ∨ c = .busy (.armTimer ps)) : c.isArming = true := by
  rcases h with rfl | rfl <;> rfl

/-- Nobody answers for the triggers of an idle controller. -/
theorem of_idle (hb : Bookkept q) (ha : q.ctl.isActive = false) : Ledger q := by
  refine ⟨fun t n h => absurd (hb.active_of_feeding h) (by simp [ha]), fun i ps hi => ?_⟩
  have harm := (hb.arming_caller (isArming_of_armed hi)).1
  simp [Controller.isActive, harm] at ha

/-- While a start arms, only the start may answer for the triggers. -/
theorem of_arming (hb : Bookkept q) {i : Nat} (ha : (q.callers i).isArming = true)
    (hfed : ∀ t, (q.callers i).feed = some t → q.Feeds t 0)
    (harmed : ∀ ps, (q.callers i = .busy (.settling ps) ∨
      q.callers i = .busy (.armTimer ps)) → q.sim.capture = some ps.captureMode) :
    Ledger q := by
  refine ⟨fun t n h => ?_, fun j ps hj => ?_⟩
  · obtain ⟨hi, rfl⟩ := hb.feeding_of_arming ha h
    exact hfed t hi
  · rw [hb.armed.arming_unique j i (isArming_of_armed hj) ha] at hj
    exact harmed ps hj

/-- A run handed over and not picked up answers alone for the triggers. -/
theorem of_pending (hb : Bookkept q) (hr : q.ctl.runRequested = true)
    (hrun : q.ctl.running = false) (hfed : q.Feeds q.ctl.timer q.ctl.frameCount) : Ledger q := by
  refine ⟨fun t n h => ?_, fun j ps hj => ?_⟩
  · obtain ⟨rfl, rfl⟩ := hb.feeding_of_pending hr hrun h
    exact hfed
  · simp [(hb.arming_caller (isArming_of_armed hj)).2.1] at hr

/-- While a run runs, the worker answers alone for the triggers. -/
theorem of_running (hb : Bookkept q) (hrun : q.ctl.running = true)
    (hfed : ∀ t, q.worker.feed = some t → q.Feeds t q.ctl.frameCount) : Ledger q := by
  refine ⟨fun t n h => ?_, fun j ps hj => ?_⟩
  · obtain ⟨hw, rfl⟩ := hb.feeding_of_running hrun h
    exact hfed t hw
  · simp [(hb.arming_caller (isArming_of_armed hj)).2.2] at hrun

/-- A step that moves nobody who answers for the triggers, changes nothing they read, and keeps
the camera's feed while somebody may answer. -/
theorem of_calm (h : Ledger p) (hb : Bookkept p)
    (hcl : ∀ j, (q.callers j).feed.isSome = true → q.callers j = p.callers j)
    (hst : q.ctl.triggerStakes = p.ctl.triggerStakes) (hw : q.worker.feed = p.worker.feed)
    (hheld : q.worker.heldTriggers = p.worker.heldTriggers)
    (hfeed : p.ctl.isActive = true → q.sim.feed = p.sim.feed)
    (hfired : ∀ t, q.firedOf t = p.firedOf t) : Ledger q := by
  simp only [Controller.triggerStakes, TriggerStakes.mk.injEq] at hst
  obtain ⟨hr, hrun, ht, hn⟩ := hst
  -- whoever answers after the step answered before it
  have back : ∀ t n, q.Feeding t n → p.Feeding t n := by
    rintro t n (⟨j, hj, rfl⟩ | ⟨hr', hrun', ht', rfl⟩ | ⟨hw', rfl⟩)
    · exact .inl ⟨j, by rw [← hcl j (by simp [hj]), hj], rfl⟩
    · exact .inr (.inl ⟨hr ▸ hr', hrun ▸ hrun', ht ▸ ht', hn⟩)
    · exact .inr (.inr ⟨hw ▸ hw', hn⟩)
  refine ⟨fun t n hq => ?_, fun j ps hj => ?_⟩
  · have hp := back t n hq
    exact (h.fed t n hp).congr (hfeed (hb.active_of_feeding hp)) hheld (hfired t)
  · have hj' : q.callers j = p.callers j :=
      hcl j (by rcases hj with hj | hj <;> simp [hj, Call.feed])
    rw [hj'] at hj
    have ha : p.ctl.isActive = true := by
      simp [Controller.isActive, (hb.arming_caller (isArming_of_armed hj)).1]
    have hc : q.sim.capture = p.sim.capture := congrArg Sdk.Feed.capture (hfeed ha)
    rw [hc]
    exact h.armed j ps hj

/-- A trigger thread alive is answered for by the holder of the capture, which captures in
software trigger mode on a camera that answers calls. -/
theorem firing (h : Ledger p) (hb : Bookkept p) (hr : Resourced p) {k : Nat} {t : Timer}
    (ht : p.timers[k]? = some t) (ha : t.isAlive = true) :
    ∃ n, p.Feeding (some k) n ∧ p.sim.capture = some .triggerSoftware ∧
      p.sim.holdings.live = true := by
  obtain ⟨n, hfd⟩ := hb.feeding_of_owns (hr.timer_owned k ⟨t, ht, ha⟩)
  have hcap := (h.fed _ _ hfd).1 rfl
  exact ⟨n, hfd, hcap, hr.balanced.live_of_capturing (by simp [hcap])⟩

/-! ### Every step keeps the ledger -/

/-- A request starts a call at a point that answers for no triggers. -/
theorem request (h : Ledger p) (hb : Bookkept p) {i : Nat} {rq : Request} :
    Ledger (p.setCaller i (.busy rq.call)) := by
  have hrf : rq.call.feed = none := by cases rq <;> rfl
  refine h.of_calm hb (fun j hj => ?_) rfl rfl rfl (fun _ => rfl) (fun _ => rfl)
  by_cases hji : j = i
  · subst hji
    simp [hrf] at hj
  · simp [hji]

/-- Every step of a host call keeps the ledger: a call outside every start moves nobody who
answers, and the start that arms answers alone until it hands its run over or gives up. -/
theorem call (h : Ledger p) (hb : Bookkept p) {i : Nat} {e : Bool} {s : Except CameraError Unit}
    {c : Call} {r : Caller} (hc : p.callers i = .busy c)
    (hs : Acquisition.Call.step e s c p = some (r, q)) : Ledger (q.setCaller i r) := by
  have hbq : Bookkept (q.setCaller i r) := hb.call hc hs
  obtain ⟨hw, hcl⟩ := Acquisition.Call.step_frame hs
  cases hca : c.isArming
  case false =>
    obtain ⟨hr, hst, htm, hfeed⟩ := Acquisition.Call.step_unarmed hca hs
    refine h.of_calm hb (fun j hj => ?_) hst (by rw [Plant.setCaller_worker, hw])
      (by rw [Plant.setCaller_worker, hw]) (fun ha => ?_)
      (fun t => Plant.firedOf_of_timers (by rw [Plant.setCaller_timers, htm]) t)
    · by_cases hji : j = i
      · subst hji
        simp [hr] at hj
      · simp [hji, hcl]
    · rcases hfeed with ⟨-, ha'⟩ | hfeed
      · simp [ha'] at ha
      · exact hfeed
  case true =>
    have ha : (p.callers i).isArming = true := by simp [hc, hca]
    obtain ⟨-, hr0, hrun0⟩ := hb.arming_caller ha
    have hh0 : p.worker.heldTriggers = 0 := hb.heldTriggers_of_idle hrun0
    -- what the start is owed at its current point
    have hown : ∀ t, c.feed = some t → p.Feeds t 0 := fun t ht =>
      h.fed t 0 (.inl ⟨i, by simp [hc, ht], rfl⟩)
    have hi : ∀ (q' : Plant) (x : Caller), (q'.setCaller i x).callers i = x := fun q' x => by simp
    cases c with
    | armCapture ps =>
      obtain ⟨rfl, ⟨u, hok, rfl⟩ | ⟨err, herr, rfl⟩⟩ :=
        Acquisition.Call.step_armCapture hs
      · -- the capture starts in the mode of the start's parameters, with no trigger pending
        obtain ⟨hl, hcap⟩ := Sdk.Simulator.capStart_ok p.sim ps.captureMode hok
        have hfeed := p.sim.feed_capStart ps.captureMode
        rw [if_pos (by simpa [hl] using hcap)] at hfeed
        have hc' := congrArg Sdk.Feed.capture hfeed
        have hp' := congrArg Sdk.Feed.pending hfeed
        simp only [Sdk.Simulator.feed_capture, Sdk.Simulator.feed_pending] at hc' hp'
        refine of_arming hbq (i := i) ?_ (fun t ht => ?_) (fun ps' hps => ?_)
        · rw [hi]
          split <;> rfl
        · have htn : t = none := by
            rw [hi] at ht
            split at ht <;> simpa [Call.feed] using ht.symm
          subst htn
          exact ⟨fun h' => absurd h' (by simp), fun _ => by simp [hp', hh0, Plant.firedOf]⟩
        · rw [hi] at hps
          have e : ps' = ps := by split at hps <;> simp_all
          rw [e]
          exact hc'
      · -- a refused capture start leaves the camera as it was
        rw [Sdk.Simulator.capStart_error p.sim _ herr]
        exact of_arming hbq (i := i) (by rw [hi]; rfl) (fun t ht => by simp [hi, Call.feed] at ht)
          (fun ps' hps => by simp [hi] at hps)
    | settling ps =>
      obtain ⟨-, rfl, rfl⟩ := Acquisition.Call.step_settling hs
      refine of_arming hbq (i := i) (by rw [hi]; split <;> rfl) (fun t ht => ?_) (fun ps' hps => ?_)
      · -- the start goes on with no thread
        have htn : t = none := by
          rw [hi] at ht
          split at ht <;> simpa [Call.feed] using ht.symm
        subst htn
        exact hown none rfl
      · rw [hi] at hps
        have e : ps' = ps := by split at hps <;> simp_all
        rw [e]
        exact h.armed i ps (.inl hc)
    | armTimer ps =>
      rcases Acquisition.Call.step_armTimer hs with ⟨-, rfl, rfl⟩ | ⟨hm, -, rfl, rfl⟩ |
        ⟨-, err, -, rfl, rfl⟩
      · -- a run triggered otherwise goes on with no thread
        refine of_arming hbq (i := i) (by rw [hi]; rfl) (fun t ht => ?_)
          (fun ps' hps => by simp [hi] at hps)
        obtain rfl : t = none := by simpa [hi, Call.feed] using ht.symm
        exact hown none rfl
      · -- the thread starts in software trigger mode, with nothing fired and nothing pending
        have hcap : p.sim.capture = some .triggerSoftware := by
          rw [h.armed i ps (.inr hc), (AcqParams.captureMode_eq_triggerSoftware ps).2 hm]
        have hpend : p.sim.pendingTriggers = 0 := by
          have hacc := (hown none rfl).2 hcap
          simp only [Plant.firedOf] at hacc
          omega
        refine of_arming hbq (i := i) (by rw [hi]; rfl) (fun t ht => ?_)
          (fun ps' hps => by simp [hi] at hps)
        obtain rfl : t = some p.timers.length := by simpa [hi, Call.feed] using ht.symm
        refine ⟨fun _ => hcap, fun _ => ?_⟩
        change 0 + p.sim.pendingTriggers + p.worker.heldTriggers ≤
          ({ p with timers := p.timers ++ [Timer.make ps.nbFrames] } : Plant).firedOf
            (some p.timers.length)
        rw [Plant.firedOf_append_make, hpend, hh0]
        simp [Plant.firedOf]
      · -- the thread fails to start, the capture stops, and the start gives up
        exact of_arming hbq (i := i) (by rw [hi]; rfl) (fun t ht => by simp [hi, Call.feed] at ht)
          (fun ps' hps => by simp [hi] at hps)
    | handOver t =>
      rcases Acquisition.Call.step_handOver hs with ⟨-, rfl, rfl⟩ | ⟨-, rfl, -⟩
      · -- a stop came: the start cancels with its thread
        refine of_arming hbq (i := i) (by rw [hi]; rfl) (fun t' ht => ?_)
          (fun ps' hps => by simp [hi] at hps)
        rw [show t' = t by simpa [hi, Call.feed] using ht.symm]
        exact hown t rfl
      · -- the run is handed over with the thread, nothing taken yet
        exact of_pending hbq rfl hrun0 (hown t rfl)
    | cancelling t st =>
      rcases Acquisition.Call.step_cancelling hs with ⟨rfl, rfl, rfl⟩ | ⟨rfl, -, rfl, rfl⟩ |
        ⟨rfl, rfl, rfl⟩ | ⟨rfl, rfl, rfl⟩
      · -- telling the thread to stop changes no count
        refine of_arming hbq (i := i) (by rw [hi]; rfl) (fun t' ht => ?_)
          (fun ps' hps => by simp [hi] at hps)
        rw [show t' = t by simpa [hi, Call.feed] using ht.symm]
        exact (hown t rfl).congr (by simp) (by simp) (Plant.firedOf_signalTimer t t)
      · refine of_arming hbq (i := i) (by rw [hi]; rfl) (fun t' ht => ?_)
          (fun ps' hps => by simp [hi] at hps)
        rw [show t' = t by simpa [hi, Call.feed] using ht.symm]
        exact hown t rfl
      · -- the capture stops, and the start holds nothing more
        exact of_arming hbq (i := i) (by rw [hi]; rfl) (fun t' ht => by simp [hi, Call.feed] at ht)
          (fun ps' hps => by simp [hi] at hps)
      · exact of_idle hbq (by simp [Controller.isActive, hr0, hrun0])
    | failArming err =>
      obtain ⟨rfl, rfl⟩ := Acquisition.Call.step_failArming hs
      exact of_idle hbq (by simp [Controller.isActive, hr0, hrun0])
    | _ => simp [Call.isArming] at hca

/-- Every step of the worker keeps the ledger: it picks the run up with its thread and its
frame count, a frame it takes takes a pending trigger in software trigger mode, and a failed
wait takes none. -/
theorem worker (h : Ledger p) (hb : Bookkept p) (hwc : p.WaitsCounted) {pat : Bool}
    (hs : Worker.step pat p = some q) : Ledger q := by
  have hbq : Bookkept q := hb.worker hs
  cases hw : p.worker with
  | idle =>
    rcases Worker.step_idle hw hs with ⟨hr, rfl⟩ | ⟨-, -, rfl⟩
    · -- the worker picks the run up, with its thread and its frame count
      have hrun : p.ctl.running = false := by
        have e : p.ctl.running = p.worker.run?.isSome := hb.working.running_eq
        simp [e, hw, Worker.run?]
      have hp := h.fed _ _ (.inr (.inl ⟨hr, hrun, rfl, rfl⟩))
      refine of_running hbq rfl fun t ht => ?_
      have htt : t = p.ctl.timer := by
        rw [pickUp_worker] at ht
        split at ht <;> simpa [Worker.feed] using ht.symm
      rw [htt]
      -- the run starts at the top of its loop, holding no trigger
      have hh : (pickUp p).worker.heldTriggers = p.worker.heldTriggers := by
        rw [pickUp_worker, hw]
        split <;> rfl
      exact hp.congr rfl hh rfl
    · exact h.of_calm hb (fun j _ => rfl) rfl (by simp [hw, Worker.feed])
        (by simp [hw, Worker.heldTriggers]) (fun _ => rfl) (fun _ => rfl)
  | acquiring run f k spot =>
    -- the worker stays in its run, which runs, answering with the run's thread
    have hf : p.worker.feed = some run.timer := by simp [hw, Worker.feed]
    have hp : p.Feeds run.timer p.ctl.frameCount := h.fed _ _ (.inr (.inr ⟨hf, rfl⟩))
    have hrun : p.ctl.running = true := hb.running_of_feed hf
    have hst := Worker.step_acquiring hw hs
    obtain ⟨hc, -, htm, hw'⟩ := Worker.acquireStep_frame hst
    have hsim := Worker.acquireStep_waitsFrom hst
    refine of_running hbq (by rw [hc]; exact hrun) fun t ht => ?_
    have htr : t = run.timer := by
      rcases hw' with ⟨f', n', spot', e⟩ | ⟨o, e⟩ <;> simpa [e, Worker.feed] using ht.symm
    rw [htr]
    -- the capture stays, and the step counts a frame only for a trigger its wait took
    refine ⟨fun ht' => by rw [hsim.capture_eq]; exact hp.1 ht', fun hcap => ?_⟩
    rw [hsim.capture_eq] at hcap
    rw [Plant.firedOf_of_timers htm run.timer]
    exact Nat.le_trans (Worker.acquireStep_triggers hwc hw hcap hst) (hp.2 hcap)
  | ending run o rel st =>
    have hrun : p.ctl.running = true := by
      have e : p.ctl.running = p.worker.run?.isSome := hb.working.running_eq
      simp [e, hw, Worker.run?]
    -- before the capture stops, the worker answers with the run's thread
    have hp : st ≠ .record → p.Feeds run.timer p.ctl.frameCount := fun hst =>
      h.fed _ _ (.inr (.inr ⟨by cases st <;> simp_all [Worker.feed], rfl⟩))
    rcases Worker.endStep_eq (Worker.step_ending hw hs) with ⟨rfl, rfl⟩ | ⟨rfl, -, rfl⟩ |
      ⟨rfl, rfl⟩ | ⟨rfl, rfl⟩
    · -- telling the thread to stop changes no count
      refine of_running hbq (by simpa using hrun) fun t ht => ?_
      rw [show t = run.timer by simpa [Worker.feed] using ht.symm, Plant.setWorker_ctl,
        signalTimer_ctl]
      have hfired : ((signalTimer run.timer p).setWorker (.ending run o rel .join)).firedOf
          run.timer = p.firedOf run.timer := Plant.firedOf_signalTimer _ _
      exact (hp (by simp)).congr (by simp) (by simp [hw, Worker.heldTriggers]) hfired
    · refine of_running hbq hrun fun t ht => ?_
      rw [show t = run.timer by simpa [Worker.feed] using ht.symm]
      exact (hp (by simp)).congr rfl (by simp [hw, Worker.heldTriggers]) rfl
    · -- the capture stops, and the worker holds nothing more
      exact of_running hbq hrun fun t ht => by simp [Worker.feed] at ht
    · -- the end is recorded: no run, and no start arms while one runs
      have harm : p.ctl.arming = false := by
        cases ha : p.ctl.arming
        · rfl
        · have := (hb.sound.arming_idle (by simpa using ha)).2
          simp [hrun] at this
      exact of_idle hbq (by simp [Controller.isActive, harm])
  | exited => simp [Worker.step_exited hw] at hs

/-- Every step of a trigger thread keeps the ledger: a thread alive is answered for by the
holder of the capture, whose camera takes its trigger, one more pending as one more fired. -/
theorem timer (h : Ledger p) (hb : Bookkept p) (hr : Resourced p) {k : Nat}
    (hs : Timer.step k p = some q) : Ledger q := by
  obtain ⟨hctl, hw, hcl, -⟩ := Timer.step_frame hs
  obtain ⟨t, ht, ⟨-, rfl⟩ | ⟨hpc, -, hq⟩ | ⟨-, -, rfl⟩⟩ := Timer.step_eq hs
  · exact h.of_calm hb (fun _ _ => rfl) rfl rfl rfl (fun _ => rfl)
      (Plant.firedOf_modifyTimer (by intro x; rfl))
  · -- the thread fires for the holder that answers for it, whose camera takes the trigger
    have ha : t.isAlive = true := by
      simp only [Timer.isAlive, hpc]
      decide
    obtain ⟨n, hfd, hcap, hlive⟩ := h.firing hb hr ht ha
    obtain ⟨hok, hfeed⟩ := p.sim.doSoftwareTrigger_fires hlive hcap
    have hsim : q.sim = p.sim.doSoftwareTrigger.2 := by rw [hq]; rfl
    have hc : q.sim.capture = p.sim.capture := by rw [hsim]; exact congrArg Sdk.Feed.capture hfeed
    have hpend : q.sim.pendingTriggers = p.sim.pendingTriggers + 1 := by
      rw [hsim]
      exact congrArg Sdk.Feed.pending hfeed
    have hfired : q.firedOf (some k) = p.firedOf (some k) + 1 := by
      rw [hq]
      simp [Plant.firedOf, Plant.modifyTimer, ht, hok]
    refine ⟨fun t' n' hq' => ?_, fun j ps hj => ?_⟩
    · have hp : p.Feeding t' n' := by
        unfold Plant.Feeding at hq' ⊢
        rwa [hctl, hw, hcl] at hq'
      obtain ⟨rfl, rfl⟩ := hb.feeding_unique hp hfd
      have hacc := (h.fed _ _ hfd).2 hcap
      refine ⟨fun _ => by rw [hc]; exact hcap, fun _ => ?_⟩
      rw [hpend, hfired, hw]
      omega
    · rw [hcl] at hj
      rw [hc]
      exact h.armed j ps hj
  · exact h.of_calm hb (fun _ _ => rfl) rfl rfl rfl (fun _ => rfl)
      (Plant.firedOf_modifyTimer (by intro x; rfl))

/-- Every step without interference from outside keeps the ledger. -/
theorem step (h : Ledger p) (hb : Bookkept p) (hr : Resourced p) (hwc : p.WaitsCounted)
    {a : Actor} (hs : Transition false p a q) : Ledger q := by
  cases hs with
  | request i rq hm => exact h.request hb
  | call i e s hc hst => exact h.call hb hc hst
  | worker hst => exact h.worker hb hwc hst
  | timer k hst => exact h.timer hb hr hst
  | outside sim host hout => cases hout

end Ledger

/-! ## Every plant reached -/

section Reachable

variable {params : AcqParams} {timings : Timings} {deviceIndex : Nat} {sim : Sdk.Simulator}
  {host : Host} {p : Plant}

theorem Plant.WaitsCounted.of_reachable {env : Bool}
    (h : Reachable env (Plant.initial params timings deviceIndex sim host) p) : p.WaitsCounted := by
  induction h with
  | init =>
    unfold Plant.WaitsCounted
    intro run f k spot n hw
    simp [Plant.initial] at hw
  | step hp hs ih => exact ih.step (bookkept_of_reachable hp) hs

theorem Plant.FiringBounded.of_reachable {env : Bool}
    (h : Reachable env (Plant.initial params timings deviceIndex sim host) p) :
    p.FiringBounded := by
  induction h with
  | init =>
    unfold Plant.FiringBounded
    intro j t ht
    simp [Plant.initial] at ht
  | step hp hs ih => exact ih.step hs

/-- The ledger of every plant reached from a controller just made on a camera that holds
nothing, without interference from outside. -/
theorem Ledger.of_reachable (hcap : sim.capture = none) (hal : sim.allocated = false)
    (hcs : sim.stats.capStarts = sim.stats.capStops)
    (hbuf : sim.stats.bufAllocs = sim.stats.bufReleases)
    (h : Reachable false (Plant.initial params timings deviceIndex sim host) p) : Ledger p := by
  induction h with
  | init => exact Ledger.of_idle (bookkept_initial params timings deviceIndex sim host) rfl
  | step hp hs ih =>
    exact ih.step (bookkept_of_reachable hp) (Resourced.of_reachable hcap hal hcs hbuf hp)
      (Plant.WaitsCounted.of_reachable hp) hs

end Reachable

/-! ## What the ledger says -/

theorem signalTimer_length (t : Option Nat) (p : Plant) :
    (signalTimer t p).timers.length = p.timers.length := by
  cases t <;> simp [signalTimer, Plant.modifyTimer]

namespace Ledger

variable {p : Plant} {run : Run} {f : Sdk.Frame} {k : Nat} {spot : Spot}

end Ledger

section Steps

variable {p q : Plant} {a : Actor}

/-- A trigger thread is started only by a start of an internally triggered run, for the number
of frames the start took. -/
theorem Transition.thread_start (hs : Transition false p a q)
    (hlen : q.timers.length ≠ p.timers.length) :
    ∃ i ps, a = .caller i ∧ p.callers i = .busy (.armTimer ps) ∧ ps.trigMode = .intTrig ∧
      q.timers = p.timers ++ [Timer.make ps.nbFrames] := by
  cases hs with
  | request i rq hm => exact absurd rfl hlen
  | call i e s hc hst =>
    rcases Acquisition.Call.step_timers hst with ⟨t, ht⟩ | ⟨ps, rfl, hm, ht⟩
    · exact absurd (by rw [Plant.setCaller_timers, ht, signalTimer_length]) hlen
    · exact ⟨i, ps, rfl, hc, hm, by rw [Plant.setCaller_timers, ht]⟩
  | worker hst =>
    obtain ⟨t, ht⟩ := Worker.step_timers hst
    exact absurd (by rw [ht, signalTimer_length]) hlen
  | timer k hst =>
    obtain ⟨t, -, ⟨-, rfl⟩ | ⟨-, -, rfl⟩ | ⟨-, -, rfl⟩⟩ := Timer.step_eq hst <;>
      exact absurd (by simp [Plant.modifyTimer]) hlen
  | outside sim host hout => cases hout

end Steps

end CameraAcquisition
