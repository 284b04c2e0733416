import CameraAcquisition.Acquisition.Control
import Mathlib.Tactic.SplitIfs

/-!
# Running the controller's operations symbolically

An operation of the controller runs in the operation monad: it changes the plant and may
fail, keeping what it did before failing. Here an operation applied to a plant is taken
apart into plain conditionals over the plant, so that what a section under the lock does
can be read off one equation.

`Act.andThen` and `Act.orElse` stand for the rest of an operation after its first part and
for a failure handler; with them `Act.run'` goes through `pure`, `bind`, `tryCatch`, the
plant's state and the SDK calls by simp lemmas. `Act.Keeps R x` says that `R` relates the
plant before and after every run of `x`; it composes along `bind` for a reflexive and
transitive `R`, which tells what a long operation such as `prepare` leaves alone without a
split on every SDK answer.

## What this module delivers

- `Act.andThen`, `Act.orElse` and the simp lemmas of `Act.run'`.
- `Act.Keeps` with `Act.keeps_bind`; `OnCamera`, plants that differ in the camera only.
- Equations of the shared sections: `releaseBuffer_run'`, `handOver_run'`, `stopLoop_run'`,
  `stopUnlessIdle_run'` with `stopLoop_plant` and `stopUnlessIdle_plant`, `afterStop_plant`,
  `afterStop_result`, `coldStart_plant`, `allocFrame_plant`.
- `programTrigger_keeps` and `prepare_keeps`: what each part of the programming of the
  trigger, or of a prepare, keeps, the whole keeps.
- `Preparing` and `prepare_preparing`: a prepare changes the camera, the cold start flag and
  a frame that was not prepared, and nothing else; `prepare_view`: it keeps every view of the
  camera that its calls keep.
-/

set_option autoImplicit false

namespace CameraAcquisition

variable {α β : Type}

/-- What the rest `f` of an operation comes to after its first part came to `r`. -/
def Act.andThen (r : Except CameraError α × Plant) (f : α → Act β) :
    Except CameraError β × Plant :=
  match r with
  | (.ok a, q) => (f a).run' q
  | (.error e, q) => (.error e, q)

/-- What the failure handler `h` makes of an operation that came to `r`. -/
def Act.orElse (r : Except CameraError α × Plant) (h : CameraError → Act α) :
    Except CameraError α × Plant :=
  match r with
  | (.ok a, q) => (.ok a, q)
  | (.error e, q) => (h e).run' q

namespace Act

/-- After a first part that succeeds, the rest runs on the plant it left. -/
@[simp] theorem andThen_ok (a : α) (q : Plant) (f : α → Act β) :
    andThen (.ok a, q) f = (f a).run' q := rfl

/-- After a first part that fails, the rest does not run. -/
@[simp] theorem andThen_error (e : CameraError) (q : Plant) (f : α → Act β) :
    andThen (.error e, q) f = (.error e, q) := rfl

/-- The rest of an operation goes into both branches of a conditional first part. -/
@[simp] theorem andThen_ite (c : Prop) [Decidable c] (x y : Except CameraError α × Plant)
    (f : α → Act β) : andThen (if c then x else y) f = if c then andThen x f else andThen y f := by
  split <;> rfl

/-- A failure handler leaves an operation that succeeded alone. -/
@[simp] theorem orElse_ok (a : α) (q : Plant) (h : CameraError → Act α) :
    orElse (.ok a, q) h = (.ok a, q) := rfl

/-- A failure handler runs on the plant that the failed operation left. -/
@[simp] theorem orElse_error (e : CameraError) (q : Plant) (h : CameraError → Act α) :
    orElse (.error e, q) h = (h e).run' q := rfl

/-- A pure operation answers its value and leaves the plant alone. -/
@[simp] theorem run'_pure (a : α) (p : Plant) : (pure a : Act α).run' p = (.ok a, p) := rfl

/-- An operation followed by another is its first part, then the rest. -/
@[simp] theorem run'_bind (x : Act α) (f : α → Act β) (p : Plant) :
    (x >>= f).run' p = andThen (x.run' p) f := by
  simp only [run', ExceptT.run_bind]
  show (StateT.run _ p) = _
  simp only [StateT.run_bind]
  rcases h : (ExceptT.run x).run p with ⟨r, q⟩
  cases r <;> rfl

/-- A conditional operation runs the branch its condition picks. -/
@[simp] theorem run'_ite (c : Prop) [Decidable c] (x y : Act α) (p : Plant) :
    (if c then x else y).run' p = if c then x.run' p else y.run' p := by
  split <;> rfl

/-- A thrown error fails and leaves the plant alone. -/
@[simp] theorem run'_throw (e : CameraError) (p : Plant) :
    (throw e : Act α).run' p = (.error e, p) := rfl

/-- Reading the plant answers it. -/
@[simp] theorem run'_get (p : Plant) : (get : Act Plant).run' p = (.ok p, p) := rfl

/-- Writing the plant replaces it. -/
@[simp] theorem run'_set (q p : Plant) : (set q : Act PUnit).run' p = (.ok ⟨⟩, q) := rfl

/-- Modifying the plant applies the change. -/
@[simp] theorem run'_modify (f : Plant → Plant) (p : Plant) :
    (modify f : Act PUnit).run' p = (.ok ⟨⟩, f p) := rfl

/-- An operation with a handler runs, and the handler takes over on failure. -/
@[simp] theorem run'_tryCatch (x : Act α) (h : CameraError → Act α) (p : Plant) :
    (tryCatch x h).run' p = orElse (x.run' p) h := by
  show StateT.run (ExceptT.tryCatch x h).run p = _
  simp only [ExceptT.tryCatch, ExceptT.run_mk, StateT.run_bind]
  rcases hx : x.run' p with ⟨r, q⟩
  have hx' : @StateT.run Plant Id _ x p = (r, q) := hx
  rw [hx']
  cases r <;> rfl

end Act

/-- Reading the controller answers it. -/
@[simp] theorem run'_getCtl (p : Plant) : getCtl.run' p = (.ok p.ctl, p) := rfl

/-- Modifying the controller applies the change to it alone. -/
@[simp] theorem run'_modifyCtl (f : Controller → Controller) (p : Plant) :
    (modifyCtl f).run' p = (.ok (), { p with ctl := f p.ctl }) := rfl

/-- Setting the status goes through the status's own rule for a change. -/
@[simp] theorem run'_setStatus (st : Status) (p : Plant) :
    (setStatus st).run' p =
      (.ok (), { p with ctl := { p.ctl with status := p.ctl.status.set st } }) := rfl

/-- Forcing the status writes it whatever it was. -/
@[simp] theorem run'_forceStatus (st : Status) (p : Plant) :
    (forceStatus st).run' p = (.ok (), { p with ctl := { p.ctl with status := st } }) := rfl

/-- An SDK call whose answer is ignored keeps only its effect on the camera. -/
@[simp] theorem run'_attempt (f : Sdk.Simulator → Sdk.Answer α) (p : Plant) :
    (attempt f).run' p = (.ok (), { p with sim := (f p.sim).2 }) := rfl

/-- An SDK call answers as the camera does, its error turned into a camera error. -/
@[simp] theorem run'_call (f : Sdk.Simulator → Sdk.Answer α) (p : Plant) :
    (call f).run' p = ((f p.sim).1.mapError .ofCall, { p with sim := (f p.sim).2 }) := by
  simp only [call, Act.run'_bind, Act.run'_get, Act.andThen_ok, Act.run'_set]
  rcases f p.sim with ⟨r, sim⟩
  cases r <;> rfl

/-! ## Relations kept by operations -/

namespace Act

/-- `R` relates the plant before every run of `x` to the plant after it, a failed run
included. -/
def Keeps (R : Plant → Plant → Prop) (x : Act α) : Prop := ∀ p, R p (x.run' p).2

section Keeps

variable {R : Plant → Plant → Prop}

/-- A transitive relation kept by both parts of an operation is kept by the whole. -/
theorem keeps_bind (trans : ∀ p q r, R p q → R q r → R p r) {x : Act α} {f : α → Act β}
    (hx : Keeps R x) (hf : ∀ a, Keeps R (f a)) : Keeps R (x >>= f) := by
  intro p
  rw [run'_bind]
  rcases hr : x.run' p with ⟨_ | a, q⟩
  · simpa [hr] using hx p
  · have hq : R p q := by simpa [hr] using hx p
    simpa using trans _ _ _ hq (hf a q)

/-- A reflexive relation is kept by a pure operation. -/
theorem keeps_pure (refl : ∀ p, R p p) (a : α) : Keeps R (pure a) := fun p => refl p

/-- A reflexive relation is kept by an operation that fails first. -/
theorem keeps_throw_bind (refl : ∀ p, R p p) (e : CameraError) (f : α → Act β) :
    Keeps R (throw e >>= f) :=
  fun p => refl p

end Keeps

end Act

/-- `q` is `p` with only the camera changed. -/
def OnCamera (p q : Plant) : Prop := ∃ sim, q = { p with sim }

/-- A plant differs from itself in the camera only. -/
theorem OnCamera.refl (p : Plant) : OnCamera p p := ⟨p.sim, rfl⟩

/-- Changes of the camera only compose. -/
theorem OnCamera.trans (p q r : Plant) : OnCamera p q → OnCamera q r → OnCamera p r := by
  rintro ⟨s1, rfl⟩ ⟨s2, rfl⟩
  exact ⟨s2, rfl⟩

/-- An SDK call changes the camera only. -/
theorem call_onCamera (f : Sdk.Simulator → Sdk.Answer α) : Act.Keeps OnCamera (call f) :=
  fun p => ⟨(f p.sim).2, by simp⟩

namespace Acquisition

variable {p : Plant}

/-- A relation kept by the read and by every write of the trigger set-up is kept by the
programming of the trigger. -/
theorem programTrigger_keeps {R : Plant → Plant → Prop} (trans : ∀ p q r, R p q → R q r → R p r)
    (refl : ∀ p, R p p) (hread : Act.Keeps R (call Sdk.Simulator.capTrigger))
    (hwrite : ∀ attr, Act.Keeps R (call (Sdk.Simulator.setCapTrigger attr))) (params : AcqParams) :
    Act.Keeps R (programTrigger params) := by
  unfold programTrigger
  refine Act.keeps_bind trans hread fun attr => ?_
  dsimp only
  -- the trigger modes that are supported go on to the write, the others fail before it
  split
  case h_5 => exact Act.keeps_throw_bind refl _ _
  all_goals exact Act.keeps_bind trans (Act.keeps_pure refl _) fun _ => hwrite _

/-- The programming of the trigger changes the camera only. -/
theorem programTrigger_onCamera (params : AcqParams) :
    Act.Keeps OnCamera (programTrigger params) :=
  programTrigger_keeps OnCamera.trans OnCamera.refl (call_onCamera _) (fun _ => call_onCamera _)
    params

/-! ## The sections under the lock -/

/-- Releasing the buffer is refused while a run is under way, gives back a prepared frame, and
does nothing otherwise. -/
theorem releaseBuffer_run' : releaseBuffer.run' p =
    if p.ctl.isActive then (.error (.busy "acquisition running"), p)
    else if p.ctl.frame.isSome then
      (p.sim.bufRelease.1.mapError .ofCall,
        { p with ctl := { p.ctl with frame := none }, sim := p.sim.bufRelease.2 })
    else (.ok (), p) := by
  simp only [releaseBuffer, Act.run'_bind, run'_getCtl, Act.andThen_ok, Act.run'_ite,
    Act.run'_throw, Act.andThen_error, run'_modifyCtl, Act.run'_pure, run'_call]

/-- A start hands its run over unless a stop came: it opens a new run and waits for the worker to
pick it up, unless the worker did or has ended. -/
theorem handOver_run' (t : Option Nat) : (handOver t).run' p =
    if p.ctl.stopRequested then (.ok (some (.cancelling t .signal)), p)
    else
      let q := { p with host := { p.host with ring := p.host.ring.markStart },
                        ctl := { p.ctl with frameCount := 0, status := p.ctl.status.set .exposure,
                                            timer := t, arming := false, runRequested := true,
                                            session := p.ctl.session + 1 } }
      if q.ctl.ackedSession ≥ q.ctl.session then (.ok none, q)
      else if q.ctl.workerExited then (.error workerGone, q)
      else (.ok (some (.awaitAck q.ctl.session)), q) := by
  simp only [handOver, Act.run'_bind, run'_getCtl, Act.andThen_ok, Act.run'_ite,
    Act.run'_throw, Act.andThen_error, Act.run'_modify, run'_modifyCtl, Act.run'_pure]

/-- A stop waiting for run `n` ends once the run is torn down or the worker ended, and aborts the
run's frame wait otherwise. -/
theorem stopLoop_run' (a : AfterStop) (n : Nat) : (stopLoop a n).run' p =
    if p.ctl.completedSession ≥ n then (afterStop a (.ok ())).run' p
    else if p.ctl.workerExited then (afterStop a (.error workerGone)).run' p
    else (.ok (some (.stopAbort a n)), p) := by
  simp only [stopLoop, Act.run'_bind, run'_getCtl, Act.andThen_ok, Act.run'_ite, Act.run'_pure]

/-- A stop of an idle controller sets the status ready and ends; otherwise it asks for the stop
and waits for the current run. -/
theorem stopUnlessIdle_run' (a : AfterStop) : (stopUnlessIdle a).run' p =
    if p.ctl.isActive = false then
      (afterStop a (.ok ())).run'
        { p with ctl := { p.ctl with status := p.ctl.status.set .ready } }
    else
      (stopLoop a p.ctl.session).run' { p with ctl := { p.ctl with stopRequested := true } } := by
  simp only [stopUnlessIdle, Act.run'_bind, run'_getCtl, Act.andThen_ok, Act.run'_ite,
    run'_setStatus, run'_modifyCtl, Bool.not_eq_true']

/-- What a stop does once it ends leaves the plant alone. -/
@[simp] theorem afterStop_plant (a : AfterStop) (res : Except CameraError Unit) :
    ((afterStop a res).run' p).2 = p := by
  cases a <;> cases res <;> rfl

/-- A step of a stop's wait for a run leaves the plant alone. -/
theorem stopLoop_plant (a : AfterStop) (n : Nat) : ((stopLoop a n).run' p).2 = p := by
  rw [stopLoop_run']
  split_ifs <;> simp

/-- The first section of a stop sets the status ready on an idle controller, and asks for the
stop otherwise. -/
theorem stopUnlessIdle_plant (a : AfterStop) : ((stopUnlessIdle a).run' p).2 =
    if p.ctl.isActive = false then
      { p with ctl := { p.ctl with status := p.ctl.status.set .ready } }
    else { p with ctl := { p.ctl with stopRequested := true } } := by
  rw [stopUnlessIdle_run']
  split_ifs <;> simp [stopLoop_plant]

/-- The answer a stop ending with `a` gives to its host thread after the stop came to `res`. -/
theorem afterStop_result (a : AfterStop) (res : Except CameraError Unit) :
    ((afterStop a res).run' p).1 = match a, res with
      | .plain, res => res.map fun _ => none
      | .reset, res => res.map fun _ => some .resetForce
      | .drop, _ => .ok (some .dropQuit) := by
  cases a <;> cases res <;> rfl

/-- The cold start starts and stops a capture in software trigger mode, and marks the controller
cold started when both succeed. -/
theorem coldStart_plant (p : Plant) : (coldStart.run' p).2 =
    match (p.sim.capStart .triggerSoftware).1, (p.sim.capStart .triggerSoftware).2.capStop.1 with
    | .ok _, .ok _ => { p with sim := (p.sim.capStart .triggerSoftware).2.capStop.2,
                               ctl := { p.ctl with coldStarted := true } }
    | .ok _, .error _ => { p with sim := (p.sim.capStart .triggerSoftware).2.capStop.2 }
    | .error _, _ => { p with sim := (p.sim.capStart .triggerSoftware).2 } := by
  simp only [coldStart, Act.run'_bind, run'_call]
  rcases (p.sim.capStart .triggerSoftware).1 with _ | _
  · rfl
  · simp only [Except.mapError, Act.andThen_ok, Act.run'_bind, run'_call]
    rcases (p.sim.capStart .triggerSoftware).2.capStop.1 with _ | _ <;> rfl

/-- The allocation of the SDK buffer prepares the frame it allocated. -/
theorem allocFrame_plant (p : Plant) : (allocFrame.run' p).2 =
    match p.sim.bufAlloc.1 with
    | .ok f => { p with sim := p.sim.bufAlloc.2, ctl := { p.ctl with frame := some f } }
    | .error _ => { p with sim := p.sim.bufAlloc.2 } := by
  simp only [allocFrame, Act.run'_bind, run'_call]
  rcases p.sim.bufAlloc.1 with _ | _ <;> rfl

/-! ## What a prepare changes -/

/-- `q` is `p` with the camera, the cold start flag and the prepared frame changed, where a
frame that was prepared stays. -/
def Preparing (p q : Plant) : Prop :=
  ∃ sim cold frame, q = { p with sim, ctl := { p.ctl with coldStarted := cold, frame } } ∧
    (p.ctl.frame = none ∨ frame = p.ctl.frame)

/-- A plant is a prepare's change of itself. -/
theorem Preparing.refl (p : Plant) : Preparing p p :=
  ⟨p.sim, p.ctl.coldStarted, p.ctl.frame, rfl, .inr rfl⟩

/-- The changes a prepare makes compose. -/
theorem Preparing.trans (p q r : Plant) : Preparing p q → Preparing q r → Preparing p r := by
  rintro ⟨s1, c1, f1, rfl, h1⟩ ⟨s2, c2, f2, rfl, h2⟩
  refine ⟨s2, c2, f2, rfl, ?_⟩
  rcases h1 with h1 | rfl
  · exact .inl h1
  · simpa using h2

/-- A change of the camera only is one a prepare may make. -/
theorem OnCamera.preparing {p q : Plant} : OnCamera p q → Preparing p q := by
  rintro ⟨sim, rfl⟩
  exact ⟨sim, p.ctl.coldStarted, p.ctl.frame, rfl, .inr rfl⟩

/-- The cold start makes only the changes a prepare may make. -/
theorem coldStart_preparing : Act.Keeps Preparing coldStart := by
  intro p
  rw [coldStart_plant]
  split
  · exact ⟨_, true, p.ctl.frame, rfl, .inr rfl⟩
  · exact OnCamera.preparing ⟨_, rfl⟩
  · exact OnCamera.preparing ⟨_, rfl⟩

/-- A relation kept by each part of a prepare is kept by the prepare: by the cold start of a
camera not yet cold started, by the programming of the trigger, and by the allocation where no
frame is prepared. -/
theorem prepare_keeps {R : Plant → Plant → Prop} (trans : ∀ p q r, R p q → R q r → R p r)
    (refl : ∀ p, R p p) (hcold : ∀ p, p.ctl.coldStarted = false → R p (coldStart.run' p).2)
    (htrig : ∀ params, Act.Keeps R (programTrigger params))
    (halloc : ∀ p, p.ctl.frame = none → R p (allocFrame.run' p).2) : Act.Keeps R prepare := by
  intro p
  -- the frame is allocated only where none is prepared
  have alloc : Act.Keeps R
      (getCtl >>= fun c => if c.frame.isNone = true then allocFrame else pure ()) := by
    intro q
    simp only [Act.run'_bind, run'_getCtl, Act.andThen_ok, Act.run'_ite, Act.run'_pure]
    split
    · next hf => exact halloc q (by simpa using hf)
    · exact refl q
  have rest := Act.keeps_bind trans (htrig p.ctl.params) fun _ => alloc
  simp only [prepare, Act.run'_bind, run'_getCtl, Act.andThen_ok, Act.run'_ite, Act.run'_throw,
    Act.andThen_error]
  split
  · exact refl p
  · split
    · next hc =>
      -- the cold start runs on the plant it was decided on
      have h1 := hcold p (by simpa using hc)
      rcases hq : coldStart.run' p with ⟨_ | _, q⟩
      · simpa [hq] using h1
      · rw [hq] at h1
        exact trans _ _ _ h1 (by simpa using rest q)
    · simpa only [Act.run'_bind] using rest p

/-- A prepare changes the camera, the cold start flag and a frame that was not prepared, and
nothing else. -/
theorem prepare_preparing : Act.Keeps Preparing prepare := by
  refine prepare_keeps Preparing.trans Preparing.refl (fun p _ => coldStart_preparing p)
    (fun params p => OnCamera.preparing (programTrigger_onCamera params p)) fun p hf => ?_
  -- a frame is allocated only where none was prepared
  rw [allocFrame_plant]
  split
  · exact ⟨_, p.ctl.coldStarted, _, rfl, .inl hf⟩
  · exact OnCamera.preparing ⟨_, rfl⟩

/-- A view of the camera that each call of a prepare keeps is kept by the prepare: it starts
and stops a capture, reads and writes the trigger set-up and allocates the buffer. -/
theorem prepare_view {V : Type} (v : Sdk.Simulator → V)
    (hstart : ∀ s m, v (s.capStart m).2 = v s) (hstop : ∀ s, v s.capStop.2 = v s)
    (htrig : ∀ s, v s.capTrigger.2 = v s) (hset : ∀ s attr, v (s.setCapTrigger attr).2 = v s)
    (halloc : ∀ s, v s.bufAlloc.2 = v s) (p : Plant) :
    v (prepare.run' p).2.sim = v p.sim := by
  have trans : ∀ p q r : Plant, v q.sim = v p.sim → v r.sim = v q.sim → v r.sim = v p.sim :=
    fun _ _ _ h1 h2 => h2.trans h1
  refine prepare_keeps trans (fun _ => rfl) (fun p _ => ?_)
    (programTrigger_keeps trans (fun _ => rfl) (fun p => ?_) fun attr p => ?_) (fun p _ => ?_) p
  · rw [coldStart_plant]
    split <;> simp only [hstart, hstop]
  · rw [run'_call]
    exact htrig p.sim
  · rw [run'_call]
    exact hset p.sim attr
  · rw [allocFrame_plant]
    split <;> exact halloc p.sim

end Acquisition

end CameraAcquisition
