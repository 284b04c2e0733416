import CameraAcquisition.Proofs.Acquisition.Frames
import CameraAcquisition.Proofs.Sdk.Region
import CameraAcquisition.Interface

/-!
# The prepared frame and the region

A prepare allocates the SDK frame, of the size the camera's region fixes at that moment. A
region change first releases the prepared frame, under the lock, and programs the region only
afterwards, without it. So the prepared frame has the camera's frame size as long as no prepare
runs between a region change's release and its programming (`Plant.PreparesMidRegion`).

`RegionKept` says that the prepared frame is one the camera hands out as it stands
(`Plant.FrameFits`) and that a host thread about to program a region finds no frame prepared.
What a step can do to the region is said once per kind of thread: a host call's step programs a
region, or is a prepare that keeps a fitting frame fitting, or keeps the framing and the
prepared frame or releases it (`Call.step_region`); the worker and the trigger threads only keep
or release (`Worker.step_region`, `Timer.step_region`). From these, every step that is not a
prepare in the middle of a region change keeps `RegionKept` (`RegionKept.step`).

On a camera with the detector's sensor, the region that `Camera.roi` reports has the camera's
frame size. Hence in every such execution a prepared frame has the size of the reported region,
and a host prepare sizes the host's buffers to exactly the bytes of the prepared frame
(`prepared_frame_matches_region`).

## What this module delivers

- `Plant.KeepsFraming`, `Plant.FrameFits`, `Plant.Reframes` with `prepare_reframes`.
- `Call.step_region`, `Call.step_to_programRoi`, `Worker.step_region`, `Timer.step_region`,
  `Transition.config_eq`.
- `Plant.PreparesMidRegion`, `ReachableAvoiding` with `ReachableAvoiding.runAlone` and
  `ReachableAvoiding.of_runAlone`, `OthersIdle.not_preparesMidRegion`, `RegionKept` with
  `RegionKept.step` and `RegionKept.of_reachable`.
-/

set_option autoImplicit false

namespace CameraAcquisition

/-! ## What a step does to the region -/

namespace Plant

/-- `q` frames the camera as `p` did, and keeps `p`'s prepared frame or has none. -/
structure KeepsFraming (p q : Plant) : Prop where
  framing : q.sim.framing = p.sim.framing
  frame : q.ctl.frame = p.ctl.frame ∨ q.ctl.frame = none

/-- The prepared frame, if any, is one the camera hands out as it stands. -/
def FrameFits (p : Plant) : Prop := ∀ f, p.ctl.frame = some f → f.Fits p.sim

/-- `q` frames the camera as `p` did, and its prepared frame fits when `p`'s does. -/
structure Reframes (p q : Plant) : Prop where
  framing : q.sim.framing = p.sim.framing
  fits : p.FrameFits → q.FrameFits

variable {p q r : Plant}

theorem KeepsFraming.refl (p : Plant) : KeepsFraming p p := ⟨rfl, .inl rfl⟩

/-- Keeping the framing and the prepared frame, or releasing it, keeps a fitting frame
fitting. -/
theorem KeepsFraming.reframes (h : KeepsFraming p q) : Reframes p q := by
  refine ⟨h.framing, fun hp f hf => ?_⟩
  rcases h.frame with e | e
  · exact (hp f (e ▸ hf)).congr h.framing
  · rw [e] at hf
    cases hf

theorem Reframes.refl (p : Plant) : Reframes p p := ⟨rfl, id⟩

theorem Reframes.trans (h₁ : Reframes p q) (h₂ : Reframes q r) : Reframes p r :=
  ⟨h₂.framing.trans h₁.framing, h₂.fits ∘ h₁.fits⟩

/-- The release of a prepared frame. -/
theorem keepsFraming_release (p : Plant) : KeepsFraming p
    (if p.ctl.frame.isSome then
      { p with ctl := { p.ctl with frame := none }, sim := p.sim.bufRelease.2 }
    else p) := by
  split
  · exact ⟨by simp, .inr rfl⟩
  · exact KeepsFraming.refl p

end Plant

open Plant

@[simp] theorem stopCapture_framing (rel : Bool) (p : Plant) :
    (stopCapture rel p).sim.framing = p.sim.framing := by
  unfold stopCapture
  split <;> simp

namespace Acquisition

variable {p q : Plant}

/-- A call that keeps the framing keeps the prepared frame with it. -/
theorem call_reframes {α : Type} (f : Sdk.Simulator → Sdk.Answer α)
    (hf : ∀ s, (f s).2.framing = s.framing) : Act.Keeps Reframes (call f) := by
  intro p
  rw [run'_call]
  exact KeepsFraming.reframes ⟨hf p.sim, .inl rfl⟩

/-- A prepare keeps the framing: it keeps a prepared frame, or allocates one of the camera's
frame size. -/
theorem prepare_reframes (p : Plant) : Reframes p (prepare.run' p).2 := by
  have trans : ∀ p q r, Reframes p q → Reframes q r → Reframes p r :=
    fun _ _ _ => Reframes.trans
  -- the programming of the trigger reads and writes the trigger set-up only
  have htrig : ∀ params, Act.Keeps Reframes (programTrigger params) :=
    programTrigger_keeps trans Reframes.refl (call_reframes _ Sdk.Simulator.framing_capTrigger)
      fun attr => call_reframes _ fun s => s.framing_setCapTrigger attr
  refine prepare_keeps trans Reframes.refl (fun p _ => ?_) htrig (fun p _ => ?_) p
  · -- the cold start only starts and stops a capture
    rw [coldStart_plant]
    split <;> exact KeepsFraming.reframes ⟨by simp, .inl rfl⟩
  · rw [allocFrame_plant]
    split
    · next f hf =>
      refine ⟨by simp, fun _ g hg => ?_⟩
      obtain rfl := Option.some.inj hg
      exact (p.sim.bufAlloc_fits hf).congr (by simp)
    · exact KeepsFraming.reframes ⟨by simp, .inl rfl⟩

/-- An operation ends well only if its first part does and the rest ends well after it. -/
theorem Act.ok_of_bind {α β : Type} {x : Act α} {f : α → Act β} {b : β} {q : Plant}
    (h : (x >>= f).run' p = (.ok b, q)) :
    ∃ a p', x.run' p = (.ok a, p') ∧ (f a).run' p' = (.ok b, q) := by
  rw [Act.run'_bind] at h
  rcases hx : x.run' p with ⟨_ | a, p'⟩
  · rw [hx] at h
    cases h
  · rw [hx] at h
    exact ⟨a, p', rfl, h⟩

/-- A prepare that succeeds leaves a frame prepared. -/
theorem prepare_prepared (h : (prepare.run' p).1 = .ok ()) :
    ∃ f, (prepare.run' p).2.ctl.frame = some f := by
  -- the programming of the trigger is followed by the allocation where no frame is prepared
  have tail : ∀ q r, (do
      programTrigger p.ctl.params
      let c ← getCtl
      if c.frame.isNone = true then allocFrame else pure () : Act Unit).run' q = (.ok (), r) →
      ∃ f, r.ctl.frame = some f := by
    intro q r hq
    obtain ⟨-, q', -, hq⟩ := Act.ok_of_bind hq
    simp only [Act.run'_bind, run'_getCtl, Act.andThen_ok] at hq
    split at hq
    · rw [allocFrame, Act.run'_bind, run'_call] at hq
      rcases hb : q'.sim.bufAlloc.1 with _ | f <;> simp [hb, Except.mapError] at hq
      exact ⟨f, by rw [← hq]⟩
    · next hf =>
      obtain ⟨-, rfl⟩ := Prod.mk.inj hq
      simpa [Option.isNone_iff_eq_none, Option.ne_none_iff_exists'] using hf
  rcases hp : prepare.run' p with ⟨res, r⟩
  rw [hp] at h
  subst h
  simp only [prepare, Act.run'_bind, run'_getCtl, Act.andThen_ok, Act.run'_ite, Act.run'_throw,
    Act.andThen_error] at hp
  split_ifs at hp
  · cases hp
  · -- a cold start that went through is followed by the rest
    rcases hc : coldStart.run' p with ⟨_ | _, q⟩ <;> rw [hc] at hp
    · cases hp
    · exact tail q r (by simpa only [Act.run'_bind, Act.andThen_ok] using hp)
  · exact tail p r (by simpa only [Act.run'_bind] using hp)

/-- A prepare leaves the host alone. -/
theorem prepare_host (p : Plant) : (prepare.run' p).2.host = p.host := by
  obtain ⟨sim, cold, frame, e, -⟩ := prepare_preparing p
  rw [e]

variable {e : Bool} {s : Except CameraError Unit} {r : Caller}

/-- What a step of a host call does to the region: it programs a region and changes nothing
else, or it is a prepare, or it keeps the framing and the prepared frame or releases it. -/
theorem Call.step_region {c : Call} (h : Call.step e s c p = some (r, q)) :
    (∃ attr, c = .programRoi attr ∧ q = { p with sim := (p.sim.setRoi attr).2 }) ∨
    (c = .prepare ∧ q = (prepare.run' p).2) ∨ KeepsFraming p q := by
  cases c with
  | prepare => exact .inr (.inl ⟨rfl, Call.step_prepare_plant h⟩)
  | programRoi attr => exact .inl ⟨attr, rfl, (Call.step_programRoi h).2⟩
  | releaseBuffer =>
    rcases Call.step_releaseBuffer h with ⟨-, -, rfl⟩ | ⟨-, -, rfl⟩
    · exact .inr (.inr (KeepsFraming.refl _))
    · exact .inr (.inr (keepsFraming_release p))
  | setRoi attr =>
    rcases Call.step_setRoi h with ⟨-, -, rfl⟩ | ⟨-, -, rfl⟩
    · exact .inr (.inr (KeepsFraming.refl _))
    · exact .inr (.inr (keepsFraming_release p))
  | dropRelease =>
    obtain ⟨-, rfl⟩ := Call.step_dropRelease h
    exact .inr (.inr ⟨by split <;> simp, .inr rfl⟩)
  | update f =>
    obtain ⟨-, rfl⟩ := Call.step_update h
    exact .inr (.inr ⟨rfl, .inl rfl⟩)
  | start =>
    rcases Call.step_start h with ⟨-, -, -, -, -, rfl⟩ | ⟨-, rfl⟩ <;>
      exact .inr (.inr ⟨rfl, .inl rfl⟩)
  | armCapture params =>
    obtain ⟨rfl, -⟩ := Call.step_armCapture h
    exact .inr (.inr ⟨by simp, .inl rfl⟩)
  | settling params =>
    obtain ⟨-, rfl, -⟩ := Call.step_settling h
    exact .inr (.inr (KeepsFraming.refl _))
  | armTimer params =>
    rcases Call.step_armTimer h with ⟨-, rfl, -⟩ | ⟨-, -, rfl, -⟩ |
      ⟨-, err, -, rfl, -⟩ <;> exact .inr (.inr ⟨by simp, .inl rfl⟩)
  | handOver t =>
    rcases Call.step_handOver h with ⟨-, -, rfl⟩ | ⟨-, rfl, -⟩ <;>
      exact .inr (.inr ⟨rfl, .inl rfl⟩)
  | awaitAck n =>
    obtain ⟨rfl, -⟩ := Call.step_awaitAck h
    exact .inr (.inr (KeepsFraming.refl _))
  | cancelling t st =>
    rcases Call.step_cancelling h with ⟨-, rfl, -⟩ | ⟨-, -, rfl, -⟩ | ⟨-, rfl, -⟩ |
      ⟨-, -, rfl⟩ <;> exact .inr (.inr ⟨by simp, .inl (by simp)⟩)
  | failArming err =>
    obtain ⟨-, rfl⟩ := Call.step_failArming h
    exact .inr (.inr ⟨rfl, .inl rfl⟩)
  | stop a =>
    rcases Call.step_stop h with ⟨-, -, rfl⟩ | ⟨-, -, rfl⟩
    · exact .inr (.inr ⟨rfl, .inl rfl⟩)
    · rw [stopUnlessIdle_plant]
      split <;> exact .inr (.inr ⟨rfl, .inl rfl⟩)
  | stopAwaitArming a =>
    obtain ⟨-, -, rfl⟩ := Call.step_stopAwaitArming h
    rw [stopUnlessIdle_plant]
    split <;> exact .inr (.inr ⟨rfl, .inl rfl⟩)
  | stopAbort a n =>
    obtain ⟨rfl, -⟩ := Call.step_stopAbort h
    exact .inr (.inr ⟨by simp, .inl rfl⟩)
  | stopPause a n =>
    obtain ⟨-, -, rfl⟩ := Call.step_stopPause h
    rw [stopLoop_plant]
    exact .inr (.inr (KeepsFraming.refl _))
  | resetForce =>
    obtain ⟨-, rfl⟩ := Call.step_resetForce h
    exact .inr (.inr ⟨rfl, .inl rfl⟩)
  | dropQuit =>
    obtain ⟨-, rfl⟩ := Call.step_dropQuit h
    exact .inr (.inr ⟨rfl, .inl rfl⟩)
  | dropJoin =>
    obtain ⟨-, -, rfl⟩ := Call.step_dropJoin h
    exact .inr (.inr (KeepsFraming.refl _))

/-- A stop never comes to the programming of a region. -/
theorem stopUnlessIdle_ne_programRoi (a : AfterStop) (attr : Sdk.RoiAttr) :
    Caller.after ((stopUnlessIdle a).run' p).1 ≠ .busy (.programRoi attr) := by
  rw [stopUnlessIdle_run', stopLoop_run']
  split_ifs <;> cases a <;> simp [afterStop_result, Except.map]

/-- Only a region change comes to the programming of a region, and it comes there with no
frame prepared. -/
theorem Call.step_to_programRoi {c : Call} {attr : Sdk.RoiAttr}
    (h : Call.step e s c p = some (r, q)) (hr : r = .busy (.programRoi attr)) :
    c = .setRoi attr ∧ q.ctl.frame = none := by
  subst hr
  cases c with
  | setRoi attr' =>
    rcases Call.step_setRoi h with ⟨-, e, -⟩ | ⟨-, hr, rfl⟩
    · cases e
    · rcases hr with e | ⟨err, e⟩ <;> cases e
      refine ⟨rfl, ?_⟩
      split
      · rfl
      · next hf => simpa using hf
  | prepare => rcases Call.step_prepare h with ⟨-, e, -⟩ | ⟨-, ⟨res, e⟩, -⟩ <;> cases e
  | programRoi a => cases (Call.step_programRoi h).1
  | releaseBuffer =>
    rcases Call.step_releaseBuffer h with ⟨-, e, -⟩ | ⟨-, ⟨res, e⟩, -⟩ <;> cases e
  | dropRelease => cases (Call.step_dropRelease h).1
  | update f => cases (Call.step_update h).1
  | start => rcases Call.step_start h with ⟨-, -, -, -, e, -⟩ | ⟨e, -⟩ <;> cases e
  | armCapture params =>
    obtain ⟨-, ⟨u, -, e⟩ | ⟨err, -, e⟩⟩ := Call.step_armCapture h
    · split at e <;> cases e
    · cases e
  | settling params =>
    obtain ⟨-, -, e⟩ := Call.step_settling h
    split at e <;> cases e
  | armTimer params =>
    rcases Call.step_armTimer h with ⟨-, -, e⟩ | ⟨-, -, -, e⟩ | ⟨-, err, -, -, e⟩ <;>
      cases e
  | handOver t =>
    rcases Call.step_handOver h with ⟨-, e, -⟩ | ⟨-, -, e | e | e⟩ <;> cases e
  | awaitAck n =>
    obtain ⟨-, ⟨-, e⟩ | ⟨-, -, e⟩⟩ := Call.step_awaitAck h <;> cases e
  | cancelling t st =>
    rcases Call.step_cancelling h with ⟨-, -, e⟩ | ⟨-, -, -, e⟩ | ⟨-, -, e⟩ |
      ⟨-, e, -⟩ <;> cases e
  | failArming err => cases (Call.step_failArming h).1
  | stop a =>
    rcases Call.step_stop h with ⟨-, e, -⟩ | ⟨-, e, -⟩
    · cases e
    · exact absurd e.symm (stopUnlessIdle_ne_programRoi a attr)
  | stopAwaitArming a =>
    obtain ⟨-, e, -⟩ := Call.step_stopAwaitArming h
    exact absurd e.symm (stopUnlessIdle_ne_programRoi a attr)
  | stopAbort a n =>
    obtain ⟨-, ⟨-, e⟩ | ⟨-, e⟩⟩ := Call.step_stopAbort h
    · rw [afterStop_result] at e
      cases a <;> simp [Except.map] at e
    · cases e
  | stopPause a n =>
    obtain ⟨-, e, -⟩ := Call.step_stopPause h
    rw [stopLoop_run'] at e
    split_ifs at e <;> cases a <;> simp [afterStop_result, Except.map] at e
  | resetForce => cases (Call.step_resetForce h).1
  | dropQuit => cases (Call.step_dropQuit h).1
  | dropJoin => cases (Call.step_dropJoin h).2.1

end Acquisition

namespace Worker

variable {p q : Plant} {pat : Bool}

/-- A step of the frame loop keeps the framing: its only call is the frame wait. -/
theorem acquireStep_framing {run : Run} {f : Sdk.Frame} {n : Nat} {spot : Spot}
    (h : acquireStep pat run f n spot p = some q) : q.sim.framing = p.sim.framing := by
  have hw := acquireStep_waitsFrom h
  simp only [Sdk.Simulator.framing, hw.config_eq, hw.holdings_eq, hw.roi_eq]

/-- The worker keeps the framing, and keeps the prepared frame or, picking a run up, takes it. -/
theorem step_region (h : Worker.step pat p = some q) : KeepsFraming p q := by
  cases hw : p.worker with
  | idle =>
    rcases step_idle hw h with ⟨-, rfl⟩ | ⟨-, -, rfl⟩
    · exact ⟨rfl, .inr rfl⟩
    · exact ⟨rfl, .inl rfl⟩
  | acquiring run f n spot =>
    have hst := step_acquiring hw h
    exact ⟨acquireStep_framing hst, .inl (by rw [(acquireStep_frame hst).1])⟩
  | ending run o rel st =>
    rcases endStep_eq (step_ending hw h) with ⟨-, rfl⟩ | ⟨-, -, rfl⟩ | ⟨-, rfl⟩ |
      ⟨-, rfl⟩ <;> exact ⟨by simp, .inl (by simp)⟩
  | exited => simp [step_exited hw] at h

end Worker

/-- A trigger thread keeps the framing and the controller. -/
theorem Timer.step_region {p q : Plant} {i : Nat} (h : Timer.step i p = some q) :
    KeepsFraming p q := by
  obtain ⟨t, -, ⟨-, rfl⟩ | ⟨-, -, rfl⟩ | ⟨-, -, rfl⟩⟩ := Timer.step_eq h <;>
    exact ⟨by simp, .inl rfl⟩

/-- No step changes the camera's build. -/
theorem Transition.config_eq {p q : Plant} {a : Actor} (hs : Transition false p a q) :
    q.sim.config = p.sim.config := by
  cases hs with
  | request i req hm => rfl
  | call i e s hc h =>
    rcases Acquisition.Call.step_region h with ⟨attr, -, rfl⟩ | ⟨-, rfl⟩ | hk
    · simp
    · exact congrArg Sdk.Framing.config (Acquisition.prepare_reframes p).framing
    · exact congrArg Sdk.Framing.config hk.framing
  | worker h => exact congrArg Sdk.Framing.config (Worker.step_region h).framing
  | timer i h => exact congrArg Sdk.Framing.config (Timer.step_region h).framing
  | outside sim host h => cases h

/-! ## The region kept along an execution -/

/-- Host thread `j` prepares while host thread `i` has released the frame for a new region and
not yet programmed the region. -/
def Plant.PreparesMidRegion (p : Plant) (a : Actor) : Prop :=
  ∃ i j attr, a = .caller j ∧ p.callers i = .busy (.programRoi attr) ∧
    p.callers j = .busy .prepare

/-- The plants that the system reaches from `init` by steps none of which `bad` picks out. -/
inductive ReachableAvoiding (env : Bool) (bad : Plant → Actor → Prop) (init : Plant) :
    Plant → Prop where
  | init : ReachableAvoiding env bad init init
  | step {p q : Plant} {a : Actor} (hp : ReachableAvoiding env bad init p)
      (h : Transition env p a q) (hgood : ¬ bad p a) : ReachableAvoiding env bad init q

/-- A schedule that runs from a plant so reached, with every other host thread idle, and counts
none of its steps among those that may be picked out as bad there, extends the execution. -/
theorem ReachableAvoiding.runAlone {env : Bool} {bad : Plant → Actor → Prop}
    {kind : Plant → Actor → Plant → Bool} {init p q : Plant} {ms : List Move}
    (hk : ∀ p a q, OthersIdle 0 p → Transition env p a q → bad p a → kind p a q = true)
    (h : ReachableAvoiding env bad init p) (hi : OthersIdle 0 p)
    (hr : p.runAlone kind ms = some (0, q)) : ReachableAvoiding env bad init q := by
  -- the count never falls, so a schedule counted zero counts none of its steps
  refine (Plant.runAlone_induction (fun n q => n = 0 → ReachableAvoiding env bad init q)
    (fun n p' a q' ih hi' (hs : Transition env p' a q') hn => ?_) (fun _ => h) hi hr).1 rfl
  have hkf : kind p' a q' = false := by
    cases hka : kind p' a q'
    · rfl
    · simp [hka] at hn
  exact (ih (by simpa [hkf] using hn)).step hs fun hb => by simp [hk p' a q' hi' hs hb] at hkf

/-- A schedule run from a start point that counts none of its steps reaches a plant with no bad
step on the way. -/
theorem ReachableAvoiding.of_runAlone {env : Bool} {bad : Plant → Actor → Prop}
    {kind : Plant → Actor → Plant → Bool} {params : AcqParams} {timings : Timings}
    {deviceIndex : Nat} {sim : Sdk.Simulator} {host : Host} {q : Plant} {ms : List Move}
    (hk : ∀ p a q, OthersIdle 0 p → Transition env p a q → bad p a → kind p a q = true)
    (hr : (Plant.initial params timings deviceIndex sim host).runAlone kind ms = some (0, q)) :
    ReachableAvoiding env bad (Plant.initial params timings deviceIndex sim host) q :=
  ReachableAvoiding.runAlone hk .init (OthersIdle.initial _ _ _ _ _) hr

/-- With every other host thread idle no prepare runs in the middle of a region change: the
one thread in a call cannot be at both. -/
theorem OthersIdle.not_preparesMidRegion {p : Plant} (h : OthersIdle 0 p) (a : Actor) :
    ¬ Plant.PreparesMidRegion p a := by
  rintro ⟨i, j, attr, -, hi, hj⟩
  have busy : ∀ k c, p.callers k = .busy c → k = 0 := fun k c hk => by
    by_contra hne
    rw [h k hne] at hk
    cases hk
  rw [busy i _ hi] at hi
  rw [busy j _ hj, hi] at hj
  cases hj

/-- No execution changes the camera's build. -/
theorem ReachableAvoiding.config_eq {bad : Plant → Actor → Prop} {init p : Plant}
    (h : ReachableAvoiding false bad init p) : p.sim.config = init.sim.config := by
  induction h with
  | init => rfl
  | step _ hs _ ih => exact (Transition.config_eq hs).trans ih

/-- Who programs a region after host thread `i` came to `c`: `i` itself, at `c`, or a thread
that did before. -/
theorem Plant.programs_setCaller {p : Plant} {i j : Nat} {c : Caller} {attr : Sdk.RoiAttr}
    (h : (p.setCaller i c).callers j = .busy (.programRoi attr)) :
    c = .busy (.programRoi attr) ∨ p.callers j = .busy (.programRoi attr) := by
  unfold Plant.setCaller at h
  dsimp only at h
  split_ifs at h
  · exact .inl h
  · exact .inr h

/-- The prepared frame is one the camera hands out as it stands, and a host thread about to
program a region finds no frame prepared. -/
structure RegionKept (p : Plant) : Prop where
  fits : p.FrameFits
  released : ∀ i attr, p.callers i = .busy (.programRoi attr) → p.ctl.frame = none

namespace RegionKept

variable {p q : Plant}

theorem initial (params : AcqParams) (timings : Timings) (deviceIndex : Nat)
    (sim : Sdk.Simulator) (host : Host) :
    RegionKept (Plant.initial params timings deviceIndex sim host) := by
  -- nothing is prepared and no host thread has moved
  refine ⟨fun f hf => ?_, fun i attr hi => ?_⟩
  · cases hf
  · cases hi

/-- A step that moves no host thread and keeps the framing and the prepared frame, or releases
it, keeps the region. -/
theorem of_keepsFraming (h : RegionKept p) (hk : KeepsFraming p q)
    (hcl : q.callers = p.callers) : RegionKept q := by
  refine ⟨hk.reframes.fits h.fits, fun i attr hi => ?_⟩
  rcases hk.frame with e | e
  · rw [e]
    exact h.released i attr (hcl ▸ hi)
  · exact e

/-- Every step but a prepare in the middle of a region change keeps the region. -/
theorem step {a : Actor} (h : RegionKept p) (hs : Transition false p a q)
    (hgood : ¬ p.PreparesMidRegion a) : RegionKept q := by
  cases hs with
  | request i req hm =>
    refine ⟨h.fits, fun j attr hj => ?_⟩
    rcases Plant.programs_setCaller hj with e | hj
    · -- a request begins a call, never the programming of a region
      cases req <;> cases e
    · exact h.released j attr hj
  | @call q c r i e s hc hstep =>
    have hown : ∀ attr, r = .busy (.programRoi attr) → q.ctl.frame = none := fun attr hr =>
      (Acquisition.Call.step_to_programRoi hstep hr).2
    have hcl : q.callers = p.callers := (Acquisition.Call.step_frame hstep).2
    rcases Acquisition.Call.step_region hstep with ⟨attr, rfl, rfl⟩ | ⟨rfl, rfl⟩ | hk
    · -- the programming of a region finds no frame prepared, and prepares none
      have hf : p.ctl.frame = none := h.released i attr hc
      exact ⟨fun f hf' => by simp [hf] at hf', fun _ _ _ => hf⟩
    · -- a prepare runs while no host thread is about to program a region
      refine ⟨(Acquisition.prepare_reframes p).fits h.fits, fun j attr hj => ?_⟩
      rcases Plant.programs_setCaller hj with e | hj
      · exact hown attr e
      · exact absurd ⟨j, i, attr, rfl, hcl ▸ hj, hc⟩ hgood
    · refine ⟨hk.reframes.fits h.fits, fun j attr hj => ?_⟩
      rcases Plant.programs_setCaller hj with e | hj
      · exact hown attr e
      · rcases hk.frame with e | e
        · rw [Plant.setCaller_ctl, e]
          exact h.released j attr (hcl ▸ hj)
        · exact e
  | worker hw => exact h.of_keepsFraming (Worker.step_region hw) (Worker.step_callers hw)
  | timer i ht => exact h.of_keepsFraming (Timer.step_region ht) (Timer.step_frame ht).2.2.1
  | outside sim host he => cases he

/-- Every execution with no prepare in the middle of a region change keeps the region. -/
theorem of_reachable {init p : Plant} (h0 : RegionKept init)
    (h : ReachableAvoiding false Plant.PreparesMidRegion init p) : RegionKept p := by
  induction h with
  | init => exact h0
  | step _ hs hgood ih => exact ih.step hs hgood

end RegionKept

end CameraAcquisition
