import CameraAcquisition.Proofs.Acquisition.RunParams
import CameraAcquisition.Proofs.Acquisition.Triggering

/-!
# The trigger a start arms

A prepare programs the camera's trigger from the controller's parameters (`programTrigger`);
a start captures in the capture mode of the parameters it takes (`AcqParams.captureMode`) and
starts a thread of software triggers when they ask for internal triggers. The two read the
parameters at different times, so the start arms the mode the camera was programmed with only
if nobody changed the parameters' capture mode in between.

`TriggerAgrees` says that the camera is programmed in the capture mode of the controller's
parameters while a frame is prepared, and in the capture mode of the parameters a start took
while it arms. Every step keeps it but an update that changes the capture mode while a frame is
prepared (`Plant.ChangesPreparedMode`). Along every execution without one, a start captures in
the mode programmed and starts a trigger thread exactly when that mode is the software trigger
(`start_arms_programmed_trigger`). After such an update, a start captures in the new mode with
no thread while the camera is still programmed for software triggers
(`start_mode_can_differ_from_programmed`).

## What this module delivers

- `Call.params?_after`: who holds parameters after a host call.
- `Plant.ChangesPreparedMode` with its test `Plant.isPreparedModeChange`, `TriggerAgrees` with
  one lemma per kind of step and `TriggerAgrees.of_reachable`.
- `start_arms_programmed_trigger` with its instance for external triggers
  `start_arms_programmed_trigger_external`, and `start_mode_can_differ_from_programmed`.
-/

set_option autoImplicit false

namespace CameraAcquisition

/-- After a call of host thread `i`, a host thread holds parameters as `i` at its new point or as
it did before. -/
theorem Acquisition.Call.params?_after {p q : Plant} {i : Nat} {e : Bool}
    {s : Except CameraError Unit} {c : Call} {r : Caller}
    (hs : Acquisition.Call.step e s c p = some (r, q)) {j : Nat} {ps : AcqParams}
    (hj : ((q.setCaller i r).callers j).params? = some ps) :
    (j = i ∧ r.params? = some ps) ∨ (p.callers j).params? = some ps := by
  by_cases hji : j = i
  · subst hji
    exact .inl ⟨rfl, by simpa using hj⟩
  · right
    simpa [hji, (Acquisition.Call.step_frame hs).2] using hj

/-- Host thread `i` updates the parameters to another capture mode while a frame is prepared. -/
def Plant.ChangesPreparedMode (p : Plant) (a : Actor) : Prop :=
  ∃ i f, a = .caller i ∧ p.callers i = .busy (.update f) ∧ p.ctl.frame.isSome = true ∧
    (f p.ctl.params).captureMode ≠ p.ctl.params.captureMode

/-- The steps `Plant.ChangesPreparedMode` picks out, as a test that a schedule can count. -/
def Plant.isPreparedModeChange (p : Plant) (a : Actor) (_ : Plant) : Bool :=
  match a with
  | .caller i =>
    match p.callers i with
    | .busy (.update f) =>
      p.ctl.frame.isSome && decide ((f p.ctl.params).captureMode ≠ p.ctl.params.captureMode)
    | _ => false
  | _ => false

theorem Plant.ChangesPreparedMode.isPreparedModeChange {p q : Plant} {a : Actor}
    (h : Plant.ChangesPreparedMode p a) : p.isPreparedModeChange a q = true := by
  obtain ⟨i, f, rfl, hc, hf, hm⟩ := h
  simp [Plant.isPreparedModeChange, hc, hf, hm]

/-- The camera is programmed as the controller goes: in the capture mode of the controller's
parameters while a frame is prepared, and in the capture mode of the parameters a start took
while it arms. -/
structure TriggerAgrees (p : Plant) : Prop where
  prepared : ∀ f, p.ctl.frame = some f → p.sim.trigger.mode = p.ctl.params.captureMode
  taken : ∀ i ps, (p.callers i).params? = some ps → p.sim.trigger.mode = ps.captureMode

namespace TriggerAgrees

variable {p q : Plant}

/-- A step that keeps the trigger and the parameters, prepares no frame and begins no start
keeps the agreement. -/
theorem of_kept (h : TriggerAgrees p) (htr : q.sim.trigger = p.sim.trigger)
    (hps : q.ctl.params = p.ctl.params) (hf : ∀ f, q.ctl.frame = some f → p.ctl.frame = some f)
    (hcl : ∀ j ps, (q.callers j).params? = some ps → (p.callers j).params? = some ps) :
    TriggerAgrees q := by
  refine ⟨fun f hq => ?_, fun j ps hq => ?_⟩
  · rw [htr, hps]
    exact h.prepared f (hf f hq)
  · rw [htr]
    exact h.taken j ps (hcl j ps hq)

/-- A frame kept or released was prepared before. -/
theorem frame_of_kept {f : Sdk.Frame} (hf : q.ctl.frame = p.ctl.frame ∨ q.ctl.frame = none)
    (hq : q.ctl.frame = some f) : p.ctl.frame = some f := by
  rcases hf with hf | hf <;> rw [hf] at hq
  · exact hq
  · cases hq

/-- A request begins a call that is no start under way. -/
theorem request (h : TriggerAgrees p) {i : Nat} {rq : Request} :
    TriggerAgrees (p.setCaller i (.busy rq.call)) := by
  refine h.of_kept rfl rfl (fun f hf => hf) fun j ps hj => ?_
  by_cases hji : j = i
  · subst hji
    cases rq <;> simp [Request.call, Call.params?] at hj
  · simpa [hji] using hj

/-- A prepare programs the trigger from the parameters while no start arms, and is refused while
one does. -/
theorem prepare (h : TriggerAgrees p) (hb : Bookkept p) {i : Nat} {e : Bool}
    {s : Except CameraError Unit} {r : Caller}
    (hs : Acquisition.Call.step e s .prepare p = some (r, q)) :
    TriggerAgrees (q.setCaller i r) := by
  obtain ⟨hps, -, -, hheld⟩ := Acquisition.Call.step_setup hs
  have hps' : q.ctl.params = p.ctl.params := hps.resolve_right fun ⟨f, hf⟩ => by cases hf
  -- host thread `i` comes out of the prepare holding no parameters
  have holders : ∀ j ps, ((q.setCaller i r).callers j).params? = some ps →
      (p.callers j).params? = some ps := fun j ps hj => by
    rcases Acquisition.Call.params?_after hs hj with ⟨-, hr⟩ | hj
    · rcases hheld ps hr with ⟨hst, -⟩ | hcp
      · cases hst
      · cases hcp
    · exact hj
  rcases Acquisition.Call.step_prepare hs with ⟨-, -, rfl⟩ | ⟨hact, -, -⟩
  · exact h.of_kept rfl rfl (fun f hf => hf) holders
  · -- with no start under way, the prepare programs the trigger from the parameters
    obtain rfl := Acquisition.Call.step_prepare_plant hs
    refine ⟨fun f hfq => ?_, fun j ps hj => ?_⟩
    · simp only [Plant.setCaller_sim, Plant.setCaller_ctl] at hfq ⊢
      rw [hps']
      rcases Acquisition.prepare_programs p with ⟨htr, hf⟩ | hmode
      · rw [htr]
        exact h.prepared f (hf ▸ hfq)
      · exact hmode
    · have harm := (hb.arming_caller (Caller.isArming_of_params? (holders j ps hj))).1
      simp [Controller.isActive, harm] at hact

/-- Every step of a host call keeps the agreement but an update that changes the capture mode
while a frame is prepared: a prepare programs the trigger from the parameters while no start
arms, an update keeps the capture mode while a frame is prepared, and a start takes the
parameters while a frame is prepared. -/
theorem call (h : TriggerAgrees p) (hb : Bookkept p) {i : Nat} {e : Bool}
    {s : Except CameraError Unit} {c : Call} {r : Caller} (hc : p.callers i = .busy c)
    (hs : Acquisition.Call.step e s c p = some (r, q))
    (hgood : ∀ f, c = .update f → p.ctl.frame.isSome = true →
      (f p.ctl.params).captureMode = p.ctl.params.captureMode) :
    TriggerAgrees (q.setCaller i r) := by
  by_cases hprep : c = .prepare
  · subst hprep
    exact h.prepare hb hs
  obtain ⟨hps, htr, hf, hheld⟩ := Acquisition.Call.step_setup hs
  have htr' : q.sim.trigger = p.sim.trigger := htr.resolve_right hprep
  have hf' : q.ctl.frame = p.ctl.frame ∨ q.ctl.frame = none :=
    hf.imp_right fun hf => hf.resolve_right hprep
  refine ⟨fun f hfq => ?_, fun j ps hj => ?_⟩
  · have hpf := frame_of_kept hf' hfq
    simp only [Plant.setCaller_sim, Plant.setCaller_ctl, htr']
    rcases hps with hps | ⟨g, rfl⟩
    · rw [hps]
      exact h.prepared f hpf
    · -- an update while a frame is prepared keeps the capture mode
      obtain ⟨-, rfl⟩ := Acquisition.Call.step_update hs
      rw [show (g p.ctl.params).captureMode = p.ctl.params.captureMode from
        hgood g rfl (by simp [hpf])]
      exact h.prepared f hpf
  · simp only [Plant.setCaller_sim, htr']
    rcases Acquisition.Call.params?_after hs hj with ⟨rfl, hr⟩ | hj
    · rcases hheld ps hr with ⟨rfl, rfl⟩ | hcp
      · -- a start takes the controller's parameters with a frame prepared
        rcases Acquisition.Call.step_start hs with ⟨-, -, hfr, -⟩ | ⟨rfl, -⟩
        · obtain ⟨f, hpf⟩ := Option.isSome_iff_exists.1 hfr
          exact h.prepared f hpf
        · cases hr
      · exact h.taken j ps (by simp [hc, hcp])
    · exact h.taken j ps hj

/-- Every step keeps the agreement but an update that changes the capture mode while a frame is
prepared. -/
theorem step (h : TriggerAgrees p) (hb : Bookkept p) {a : Actor} (hs : Transition false p a q)
    (hgood : ¬ p.ChangesPreparedMode a) : TriggerAgrees q := by
  cases hs with
  | request i rq hm => exact h.request
  | call i e s hc hst =>
    refine h.call hb hc hst fun f hf hfr => ?_
    by_contra hne
    exact hgood ⟨i, f, rfl, hf ▸ hc, hfr, hne⟩
  | worker hst =>
    obtain ⟨hps, htr, hf⟩ := Worker.step_setup hst
    exact h.of_kept htr hps (fun f => frame_of_kept hf) fun j ps hj => by
      rwa [Worker.step_callers hst] at hj
  | timer k hst =>
    obtain ⟨hctl, htr⟩ := Timer.step_setup hst
    exact h.of_kept htr (by rw [hctl]) (fun f hf => by rwa [hctl] at hf) fun j ps hj => by
      rwa [(Timer.step_frame hst).2.2.1] at hj
  | outside sim host hout => cases hout

/-- A controller just made has no frame prepared and no start under way. -/
theorem initial (params : AcqParams) (timings : Timings) (deviceIndex : Nat)
    (sim : Sdk.Simulator) (host : Host) :
    TriggerAgrees (Plant.initial params timings deviceIndex sim host) :=
  ⟨(fun _ hf => nomatch hf), fun _ _ hps => nomatch hps⟩

/-- The agreement holds along every execution from a controller just made in which no update
changes the capture mode while a frame is prepared. -/
theorem of_reachable {params : AcqParams} {timings : Timings} {deviceIndex : Nat}
    {sim : Sdk.Simulator} {host : Host}
    (h : ReachableAvoiding false Plant.ChangesPreparedMode
      (Plant.initial params timings deviceIndex sim host) p) : TriggerAgrees p := by
  induction h with
  | init => exact initial params timings deviceIndex sim host
  | step hp hs hgood ih => exact ih.step (bookkept_of_reachable hp.reachable) hs hgood

end TriggerAgrees

/-! ## The mode a start arms -/

/-- Along every execution from a controller just made in which no update changes the capture
mode of the parameters while a frame is prepared, a start arms the trigger the camera was
programmed with. While it arms, the capture mode of the parameters it took, which its capture
start uses, is the mode programmed. A step starts a trigger thread only when the mode programmed
is the software trigger; and the step of a start about to start its thread does start one
exactly when the mode programmed is the software trigger and the thread can be spawned. -/
theorem start_arms_programmed_trigger {params : AcqParams} {timings : Timings}
    {deviceIndex : Nat} {sim : Sdk.Simulator} {host : Host} {p : Plant}
    (h : ReachableAvoiding false Plant.ChangesPreparedMode
      (Plant.initial params timings deviceIndex sim host) p) :
    (∀ i ps, (p.callers i = .busy (.armCapture ps) ∨ p.callers i = .busy (.settling ps) ∨
        p.callers i = .busy (.armTimer ps)) → p.sim.trigger.mode = ps.captureMode) ∧
    (∀ a q, Transition false p a q → q.timers.length ≠ p.timers.length →
      p.sim.trigger.mode = .triggerSoftware) ∧
    (∀ i ps e s r q, p.callers i = .busy (.armTimer ps) →
      Acquisition.Call.step e s (.armTimer ps) p = some (r, q) →
      (q.timers.length = p.timers.length + 1 ↔
        p.sim.trigger.mode = .triggerSoftware ∧ s = .ok ())) := by
  have hk := TriggerAgrees.of_reachable h
  -- a start about to start its thread arms in the mode programmed
  have timed : ∀ i ps, p.callers i = .busy (.armTimer ps) →
      (p.sim.trigger.mode = .triggerSoftware ↔ ps.trigMode = .intTrig) := fun i ps hi => by
    rw [hk.taken i ps (by simp [hi, Call.params?])]
    exact AcqParams.captureMode_eq_triggerSoftware ps
  refine ⟨fun i ps hi => hk.taken i ps ?_, fun a q hs hlen => ?_, fun i ps e s r q hi hst => ?_⟩
  · rcases hi with hi | hi | hi <;> simp [hi, Call.params?]
  · obtain ⟨i, ps, -, hi, hm, -⟩ := hs.thread_start hlen
    exact (timed i ps hi).2 hm
  · rw [timed i ps hi]
    rcases Acquisition.Call.step_armTimer hst with ⟨hm, rfl, -⟩ | ⟨hm, rfl, rfl, -⟩ |
      ⟨hm, err, rfl, rfl, -⟩
    · simp [hm]
    · simp [hm]
    · simp

/-- The trigger a start arms for external triggers: one host thread sets the parameters to
external triggers while no frame is prepared, prepares, which programs the external trigger, and
starts; the start is about to start its trigger thread. -/
theorem start_arms_programmed_trigger_external :
    let init := Plant.onOpenedCamera AcqParams.default
    ∃ p, ReachableAvoiding false Plant.ChangesPreparedMode init p ∧
    (∃ ps, p.callers 0 = .busy (.armTimer ps) ∧ ps.trigMode = .extTrigMult) ∧
    (∀ i ps, (p.callers i = .busy (.armCapture ps) ∨ p.callers i = .busy (.settling ps) ∨
        p.callers i = .busy (.armTimer ps)) → p.sim.trigger.mode = ps.captureMode) ∧
    (∀ a q, Transition false p a q → q.timers.length ≠ p.timers.length →
      p.sim.trigger.mode = .triggerSoftware) ∧
    (∀ i ps e s r q, p.callers i = .busy (.armTimer ps) →
      Acquisition.Call.step e s (.armTimer ps) p = some (r, q) →
      (q.timers.length = p.timers.length + 1 ↔
        p.sim.trigger.mode = .triggerSoftware ∧ s = .ok ())) := by
  dsimp only
  -- the update comes before the prepare, so no step changes the mode of a prepared frame
  have h : ReachableAvoiding false Plant.ChangesPreparedMode
      (Plant.onOpenedCamera AcqParams.default) _ :=
    ReachableAvoiding.of_runAlone (fun _ _ _ _ _ => Plant.ChangesPreparedMode.isPreparedModeChange)
      (rfl : (Plant.onOpenedCamera AcqParams.default).runAlone Plant.isPreparedModeChange
        [.request (.update fun ps => { ps with trigMode := .extTrigMult }), .call,
          .request .prepare, .call, .request .start, .call, .call] = some (0, _))
  exact ⟨_, h, ⟨_, rfl, rfl⟩, start_arms_programmed_trigger h⟩

/-- Without the condition a start arms a mode the camera was not programmed with. A host thread
prepares for internal triggers, which programs the software trigger, then sets the parameters
to external triggers and starts. The start captures in the external trigger mode and hands its
run over with no trigger thread, while the camera is still programmed for software triggers. -/
theorem start_mode_can_differ_from_programmed :
    ∃ p, Reachable false (Plant.onOpenedCamera AcqParams.default) p ∧
      p.sim.trigger.mode = .triggerSoftware ∧
      p.sim.capture = some ExtTrigger.standard.captureMode ∧
      ExtTrigger.standard.captureMode ≠ .triggerSoftware ∧
      p.ctl.runRequested = true ∧ p.timers.length = 0 := by
  -- prepare for internal triggers, set the parameters to external triggers, and start: the
  -- start captures, starts no thread and hands the run over
  have h : Reachable false _ _ := Reachable.of_runAlone
    (rfl : (Plant.onOpenedCamera AcqParams.default).runAlone (fun _ _ _ => false)
      [.request .prepare, .call, .request (.update fun ps => { ps with trigMode := .extTrigMult }),
        .call, .request .start, .call, .call, .call, .call] = some (0, _))
  exact ⟨_, h, by decide +kernel, by decide +kernel, by decide, by decide +kernel,
    by decide +kernel⟩

end CameraAcquisition
