import CameraAcquisition.Proofs.Camera.Region
import CameraAcquisition.Proofs.Sdk.Consistency

/-!
# What a failed call leaves behind

A camera operation runs in the station's state monad with errors: what it did before failing
stays done. An operation is clean on failure (`CamAct.FailsClean`) when a failure leaves the
station exactly as it was. That holds of an operation that changes nothing whatever it answers
(`CamAct.ReadOnly`), of a check followed by a change that cannot fail (`CamAct.Total`), and of a
device call whose refusal leaves the camera as it was (`Sdk.Simulator.KeepsOnError`); these
compose along `bind`, so each setter follows from its shape.

The setters of the trigger mode, the exposure and latency times, the frame count, the
temperature target, the fan, the gain and the trigger outputs fail cleanly. Two operations do
not, by design: a region change releases the prepared frame before the camera can refuse the
region, and a host prepare lays out the host's buffers for the region the camera reports before
the prepare can fail. Of the set-up (`Setup`: the parameters, the temperature target, the values
set on the camera, whether a frame is prepared, the host's buffers) a failed region change may
have changed only whether a frame is prepared, and a failed host prepare only the host's buffers
(`failed_call_keeps_setup`). Both happen on a camera with a 16 × 16 sensor
(`failed_call_can_change_setup`).

## What this module delivers

- `CamAct.FailsClean`, `CamAct.ReadOnly`, `CamAct.Total` with their rules for `pure`, `throw`,
  `if` and `bind`; `device_exec`, `device_failsClean`, `device_readOnly`.
- `Sdk.Simulator.KeepsOnError` with `KeepsOnError.whenOpen`, for the writes of properties,
  capabilities, the region and the trigger outputs.
- One `*_failsClean` lemma per setter, `Camera.checkRoi_readOnly`, `Camera.setRoi_error`.
- `Sdk.Values` with `Simulator.values_apply`, `Acquisition.prepare_values`,
  `Acquisition.prepare_frame_of_error` and `Interface.prepareAcq_error`.
- `Setup`, `Station.setup`, `failed_call_keeps_setup` and `failed_call_can_change_setup`.
-/

set_option autoImplicit false

namespace CameraAcquisition

/-! ## Operations that fail cleanly -/

namespace CamAct

variable {α β : Type}

/-- An operation that, when it fails, leaves the station exactly as it was. -/
def FailsClean (a : CamAct α) : Prop := ∀ st e st', a.exec st = (.error e, st') → st' = st

/-- An operation that changes nothing, whatever it answers. -/
def ReadOnly (a : CamAct α) : Prop := ∀ st, (a.exec st).2 = st

/-- An operation that cannot fail. -/
def Total (a : CamAct α) : Prop := ∀ st, ∃ v st', a.exec st = (.ok v, st')

variable {x : CamAct α} {f : α → CamAct β}

theorem FailsClean.of_readOnly (h : ReadOnly x) : FailsClean x := by
  intro st e st' he
  rw [← h st, he]

theorem FailsClean.of_total (h : Total x) : FailsClean x := by
  intro st e st' he
  obtain ⟨v, st₂, h2⟩ := h st
  rw [h2] at he
  cases he

theorem readOnly_pure (a : α) : ReadOnly (pure a : CamAct α) := fun _ => rfl

theorem readOnly_throw (e : CameraError) : ReadOnly (throw e : CamAct α) := fun _ => rfl

theorem readOnly_throw_bind (e : CameraError) (k : α → CamAct β) : ReadOnly (throw e >>= k) :=
  fun _ => rfl

theorem ReadOnly.ite {c : Prop} [Decidable c] {y : CamAct α} (hx : ReadOnly x)
    (hy : ReadOnly y) : ReadOnly (if c then x else y) := by
  split <;> assumption

theorem FailsClean.ite {c : Prop} [Decidable c] {y : CamAct α} (hx : FailsClean x)
    (hy : FailsClean y) : FailsClean (if c then x else y) := by
  split <;> assumption

theorem ReadOnly.bind (hx : ReadOnly x) (hf : ∀ a, ReadOnly (f a)) : ReadOnly (x >>= f) := by
  intro st
  rw [exec_bind]
  rcases hr : x.exec st with ⟨_ | a, st'⟩
  · simpa [hr] using hx st
  · have : st' = st := by simpa [hr] using hx st
    simp only
    rw [hf a st', this]

/-- A read, then an operation that fails cleanly. -/
theorem FailsClean.bind_readOnly (hx : ReadOnly x) (hf : ∀ a, FailsClean (f a)) :
    FailsClean (x >>= f) := by
  intro st e st' he
  rw [exec_bind] at he
  have h1 := hx st
  rcases hr : x.exec st with ⟨_ | a, st₁⟩ <;> rw [hr] at he h1 <;> dsimp only at h1 <;> subst h1
  · cases he
    rfl
  · exact hf a st₁ e st' he

/-- An operation that fails cleanly, then a change that cannot fail. -/
theorem FailsClean.bind_total (hx : FailsClean x) (hf : ∀ a, Total (f a)) :
    FailsClean (x >>= f) := by
  intro st e st' he
  rw [exec_bind] at he
  rcases hr : x.exec st with ⟨_ | a, st₁⟩ <;> rw [hr] at he
  · cases he
    exact hx st _ _ hr
  · obtain ⟨v, st₂, h2⟩ := hf a st₁
    dsimp only at he
    rw [h2] at he
    cases he

end CamAct

open CamAct

/-- A call of the camera that, when it refuses, leaves the camera as it was. -/
def Sdk.Simulator.KeepsOnError {α : Type} (f : Sdk.Simulator → Sdk.Answer α) : Prop :=
  ∀ s e, (f s).1 = .error e → (f s).2 = s

theorem device_exec {α : Type} (f : Sdk.Simulator → Sdk.Answer α) (st : Station) :
    (device f).exec st = ((f st.sim).1.mapError .ofCall, { st with sim := (f st.sim).2 }) := by
  rw [device, acq_exec, run'_call]
  rfl

theorem device_failsClean {α : Type} {f : Sdk.Simulator → Sdk.Answer α}
    (hf : Sdk.Simulator.KeepsOnError f) : FailsClean (device f) := by
  intro st e st' he
  rw [device_exec] at he
  cases hr : (f st.sim).1 with
  | ok v =>
    rw [hr] at he
    cases he
  | error err =>
    rw [hr] at he
    cases he
    rw [hf st.sim err hr]

theorem device_readOnly {α : Type} {f : Sdk.Simulator → Sdk.Answer α}
    (hf : ∀ s, (f s).2 = s) : ReadOnly (device f) := by
  intro st
  rw [device_exec, hf]

theorem updateParams_total (g : AcqParams → AcqParams) : Total (updateParams g) :=
  fun _ => ⟨(), _, rfl⟩

theorem modifyCam_total (g : Camera → Camera) : Total (modifyCam g) :=
  fun _ => ⟨(), _, rfl⟩

theorem getCam_readOnly : ReadOnly getCam := fun _ => rfl

/-! ## Refusals of the camera -/

namespace Sdk.Simulator

/-- A call that a closed camera refuses keeps the camera on a refusal when its body does. -/
theorem KeepsOnError.whenOpen {α : Type} {call : String} {k : Simulator → Unit → Answer α}
    (hk : ∀ s e, s.holdings.live = true → (k s ()).1 = .error e → (k s ()).2 = s) :
    KeepsOnError fun s => s.whenOpen call (k s) := by
  intro s e h
  dsimp only at h ⊢
  rw [whenOpen_eq] at h ⊢
  by_cases hl : s.holdings.live
  · rw [if_pos hl] at h ⊢
    exact hk s e hl h
  · rw [if_neg hl]

theorem setPropValue_keepsOnError (id : PropId) (v : Float) :
    KeepsOnError (setPropValue id v) := by
  unfold setPropValue
  -- an answering camera refuses only a value outside the property's range
  refine KeepsOnError.whenOpen fun s e _ h => ?_
  cases id <;> dsimp only at h ⊢ <;> split at h <;> simp_all

theorem setCapaValue_keepsOnError (id : CapaId) (v : Int) :
    KeepsOnError (setCapaValue id v) := by
  unfold setCapaValue
  refine KeepsOnError.whenOpen fun s e _ h => ?_
  cases id <;> dsimp only at h ⊢ <;> split at h <;> simp_all

theorem setTriggerOut_keepsOnError (attr : TriggerOutAttr) :
    KeepsOnError (setTriggerOut attr) := by
  unfold setTriggerOut
  refine KeepsOnError.whenOpen fun s e _ h => ?_
  split at h <;> simp_all

theorem setRoi_keepsOnError (attr : RoiAttr) : KeepsOnError (setRoi attr) := by
  unfold setRoi
  refine KeepsOnError.whenOpen fun s e _ h => ?_
  split_ifs at h ⊢ <;> simp_all

theorem propAttr_keeps (id : PropId) (s : Simulator) : (propAttr id s).2 = s := by
  unfold propAttr
  rw [whenOpen_eq]
  split
  · cases id <;> rfl
  · rfl

end Sdk.Simulator

/-! ## The setters that fail cleanly -/

namespace Camera

open Sdk.Simulator

/-- A check that fails, else a change that cannot fail: the shape of the setters of the
acquisition parameters. -/
theorem failsClean_check {c : Prop} [Decidable c] (e : CameraError) (k : Unit → CamAct Unit)
    (hk : Total (k ())) : FailsClean (if c then throw e >>= k else k ()) :=
  .ite (.of_readOnly (readOnly_throw_bind _ _)) (.of_total hk)

theorem setTrigMode_failsClean (m : TrigMode) : FailsClean (setTrigMode m) := by
  unfold setTrigMode
  exact failsClean_check _ _ (updateParams_total _)

theorem setLatTime_failsClean (v : Float) : FailsClean (setLatTime v) := by
  unfold setLatTime
  exact failsClean_check _ _ (updateParams_total _)

theorem setNbFrames_failsClean (n : Int) : FailsClean (setNbFrames n) := by
  unfold setNbFrames
  exact failsClean_check _ _ (updateParams_total _)

theorem setExpTime_failsClean (v : Float) : FailsClean (setExpTime v) := by
  unfold setExpTime
  -- the device refuses before the parameters change, and their change cannot fail
  exact .ite (.of_readOnly (readOnly_throw_bind _ _))
    (.bind_total (device_failsClean (setPropValue_keepsOnError _ _)) fun _ => updateParams_total _)

theorem setTemperatureTarget_failsClean (t : Float) : FailsClean (setTemperatureTarget t) := by
  unfold setTemperatureTarget
  -- the range is read without a change, then checked, then written before the target is kept
  refine .bind_readOnly (device_readOnly (propAttr_keeps _)) fun attr => ?_
  exact .ite (.of_readOnly (readOnly_throw_bind _ _))
    (.bind_total (device_failsClean (setPropValue_keepsOnError _ _)) fun _ => modifyCam_total _)

theorem setFanSpeed_failsClean (v : Int) : FailsClean (setFanSpeed v) :=
  device_failsClean (setCapaValue_keepsOnError _ _)

theorem setGlobalGain_failsClean (g : Gain) : FailsClean (setGlobalGain g) :=
  device_failsClean (setPropValue_keepsOnError _ _)

theorem checkChannel_readOnly (channel : Nat) : ReadOnly (checkChannel channel) := by
  unfold checkChannel
  exact .ite (readOnly_throw _) (readOnly_pure _)

theorem setOutputSignal_failsClean (channel : Nat) (signal : Sdk.OutputSignal)
    (edge : Sdk.SignalEdge) (delay width : Option Nat) :
    FailsClean (setOutputSignal channel signal edge delay width) := by
  unfold setOutputSignal
  exact .bind_readOnly (checkChannel_readOnly _) fun _ =>
    device_failsClean (setTriggerOut_keepsOnError _)

end Camera

/-! ## What a prepare keeps -/

namespace Sdk

/-- The values a host sets on the camera: the properties, the fan, the region and the trigger
outputs. -/
structure Values where
  exposureMs : Float
  temperatureRaw : Float
  gain : Float
  fanGear : Int
  roi : RoiAttr
  outputs : List TriggerOutAttr

/-- Whether a call may write a value a host sets. -/
def Entry.writesValues : Entry → Bool
  | .setPropValue _ _ | .setCapaValue _ _ | .setRoi _ | .setTriggerOut _ => true
  | _ => false

namespace Simulator

/-- The values set on a camera. -/
def values (s : Simulator) : Values :=
  ⟨s.exposureMs, s.temperatureRaw, s.gain, s.fanGear, s.roi, s.outputs⟩

/-- A call that writes no value leaves the values as they were. -/
theorem values_apply (s : Simulator) (e : Entry) (h : e.writesValues = false) :
    (e.apply s).values = s.values := by
  cases e <;> simp only [Entry.writesValues, Bool.true_eq_false] at h <;>
    simp only [Entry.apply, apiInit, apiUninit, devOpen, devClose, devInfo, propAttr, propValue,
      capaValue, bufAlloc, bufRelease, capTrigger, setCapTrigger, capStart, capStop,
      waitForFrame, deliver, abortWait, doSoftwareTrigger, getRoi, triggerOut, whenOpen_eq] <;>
    repeat' split
  all_goals rfl

end Simulator

end Sdk

namespace Acquisition

variable {p : Plant}

/-- A prepare keeps the values set on the camera: it starts and stops a capture, reads and
writes the trigger set-up and allocates the buffer. -/
theorem prepare_values (p : Plant) : (prepare.run' p).2.sim.values = p.sim.values :=
  prepare_view Sdk.Simulator.values (fun s m => s.values_apply (.capStart m) rfl)
    (fun s => s.values_apply .capStop rfl) (fun s => s.values_apply .capTrigger rfl)
    (fun s attr => s.values_apply (.setCapTrigger attr) rfl) (fun s => s.values_apply .bufAlloc rfl)
    p

/-- A prepare that fails leaves the prepared frame as it was: the allocation is its last step. -/
theorem prepare_frame_of_error {e : CameraError} (h : (prepare.run' p).1 = .error e) :
    (prepare.run' p).2.ctl.frame = p.ctl.frame := by
  -- the programming of the trigger keeps the frame, and a failed allocation leaves it
  have tail : ∀ q r e, (do
      programTrigger p.ctl.params
      let c ← getCtl
      if c.frame.isNone = true then allocFrame else pure () : Act Unit).run' q = (.error e, r) →
      r.ctl.frame = q.ctl.frame := by
    intro q r e hq
    obtain ⟨sim, hsim⟩ := programTrigger_onCamera p.ctl.params q
    rw [Act.run'_bind] at hq
    rcases ht : (programTrigger p.ctl.params).run' q with ⟨_ | _, q'⟩ <;> rw [ht] at hq hsim <;>
      dsimp only at hsim <;> subst hsim
    · cases hq
      rfl
    · simp only [Act.andThen_ok, Act.run'_bind, run'_getCtl] at hq
      split at hq
      · simp only [allocFrame, Act.run'_bind, run'_call] at hq
        rcases hb : sim.bufAlloc.1 with _ | f <;> simp [hb, Except.mapError] at hq
        rw [← hq.2]
      · cases hq
  have cold : (coldStart.run' p).2.ctl.frame = p.ctl.frame := by
    rw [coldStart_plant]
    split <;> rfl
  rcases hp : prepare.run' p with ⟨res, r⟩
  rw [hp] at h
  subst h
  simp only [prepare, Act.run'_bind, run'_getCtl, Act.andThen_ok, Act.run'_ite, Act.run'_throw,
    Act.andThen_error] at hp
  split_ifs at hp
  · cases hp
    rfl
  · rcases hc : coldStart.run' p with ⟨_ | _, q⟩ <;> rw [hc] at hp cold
    · cases hp
      exact cold
    · exact (tail q r e (by simpa only [Act.run'_bind, Act.andThen_ok] using hp)).trans cold
  · exact tail p r e (by simpa only [Act.run'_bind] using hp)

end Acquisition

/-! ## The set-up a failed call leaves -/

/-- What a call that fails should leave as it was: the parameters of the next acquisition, the
temperature target, the values set on the camera, whether a frame is prepared, and the host's
buffers. -/
structure Setup where
  params : AcqParams
  temperatureTarget : Option Float
  values : Sdk.Values
  prepared : Bool
  layout : Layout
  count : Nat
  slots : Array ByteArray

/-- The set-up of a station. -/
def Station.setup (st : Station) : Setup :=
  ⟨st.cam.ctl.params, st.cam.temperatureTarget, st.sim.values, st.cam.ctl.frame.isSome,
    st.host.ring.layout, st.host.ring.count, st.host.ring.slots⟩

/-- A set-up with the host's buffers of a ring. -/
def Setup.withRing (s : Setup) (r : Ring) : Setup :=
  { s with layout := r.layout, count := r.count, slots := r.slots }

/-- Releasing the prepared frame changes at most whether a frame is prepared. -/
theorem releaseBuffer_setup (st : Station) :
    ((acq Acquisition.releaseBuffer).exec st).2.setup = st.setup ∨
      ((acq Acquisition.releaseBuffer).exec st).2.setup = { st.setup with prepared := false } := by
  rw [acq_exec, Acquisition.releaseBuffer_run']
  have hv : st.sim.bufRelease.2.values = st.sim.values := st.sim.values_apply .bufRelease rfl
  split_ifs
  · exact .inl rfl
  · right
    simp [Station.setup, Station.withPlant, Station.plant, hv]
  · exact .inl rfl

namespace Camera

theorem checkRoi_readOnly (r : Roi) : ReadOnly (checkRoi r) := by
  unfold checkRoi
  refine .ite (readOnly_pure _) ?_
  split
  -- a region outside the detector is refused, one inside is fitted to the grid
  exact .ite (readOnly_throw_bind _ _)
    (.bind getCam_readOnly fun c => by
      split
      · -- the fit to the grid either gives the region or overflows a word
        split
        · exact readOnly_pure _
        · exact readOnly_throw _
      · exact readOnly_pure _)

/-- A region change that fails changes at most whether a frame is prepared: the frame is
released before the camera can refuse the region. -/
theorem setRoi_error {r : Roi} {st st' : Station} {e : CameraError}
    (h : (setRoi r).exec st = (.error e, st')) :
    st'.setup = st.setup ∨ st'.setup = { st.setup with prepared := false } := by
  rw [setRoi, exec_bind] at h
  have hc := checkRoi_readOnly r st
  rcases hr : (checkRoi r).exec st with ⟨_ | r', st₀⟩ <;> rw [hr] at h hc <;> dsimp only at hc <;>
    subst hc
  · -- the region is refused before anything changes
    cases h
    exact .inl rfl
  · dsimp only at h
    rw [exec_bind] at h
    rcases hrel : (acq Acquisition.releaseBuffer).exec st₀ with ⟨_ | _, st₁⟩ <;> rw [hrel] at h
    · cases h
      simpa [hrel] using releaseBuffer_setup st₀
    · -- the camera refuses the region and stays as it was after the release
      dsimp only at h
      have hst := device_failsClean (Sdk.Simulator.setRoi_keepsOnError _) _ _ _ h
      subst hst
      simpa [hrel] using releaseBuffer_setup st₀

end Camera

/-- A host prepare that fails changes at most the host's buffers, laid out for the region the
camera reports: the buffers are sized before the prepare can fail. -/
theorem Interface.prepareAcq_error {st st' : Station} {e : HostError}
    (h : Interface.prepareAcq.exec st = (.error e, st')) :
    st' = st ∨ ∃ r, Camera.roi.exec st = (.ok r, st) ∧
      st'.setup = st.setup.withRing (st.host.ring.setLayout ⟨r.size, .bpp16⟩) := by
  rw [Interface.prepareAcq_exec] at h
  cases hl : st.sim.holdings.live
  · -- a camera that does not answer refuses the region read, and nothing changes
    obtain ⟨err, hr⟩ := Camera.roi_refused hl
    rw [hr] at h
    cases h
    exact .inl rfl
  · refine .inr ⟨_, Camera.roi_exec hl, ?_⟩
    rw [Camera.roi_exec hl] at h
    dsimp only at h
    obtain ⟨hres, rfl⟩ := Prod.mk.inj h
    set p₁ : Plant := Station.plant
      { st with host := { st.host with ring := st.host.ring.setLayout ⟨_, .bpp16⟩ } }
    have herr : ∃ err, (Acquisition.prepare.run' p₁).1 = .error err := by
      cases hp : (Acquisition.prepare.run' p₁).1 with
      | ok u =>
        rw [hp] at hres
        cases hres
      | error err => exact ⟨err, rfl⟩
    obtain ⟨err, herr⟩ := herr
    -- the failed prepare keeps the parameters, the values, the frame and the host
    obtain ⟨sim, cold, frame, hq, -⟩ := Acquisition.prepare_preparing p₁
    have hvalues := Acquisition.prepare_values p₁
    have hframe := Acquisition.prepare_frame_of_error herr
    rw [hq] at hvalues hframe ⊢
    simp only at hvalues hframe
    simp [Station.setup, Station.withPlant, Setup.withRing, hvalues, hframe, p₁, Station.plant]

/-- A call that fails leaves the set-up as it was, for every setter of the camera but two: a
region change may have released the prepared frame, and a host prepare may have laid out the
host's buffers for the region the camera reports. -/
theorem failed_call_keeps_setup :
    (∀ m, (Camera.setTrigMode m).FailsClean) ∧
    (∀ v, (Camera.setExpTime v).FailsClean) ∧
    (∀ v, (Camera.setLatTime v).FailsClean) ∧
    (∀ n, (Camera.setNbFrames n).FailsClean) ∧
    (∀ t, (Camera.setTemperatureTarget t).FailsClean) ∧
    (∀ v, (Camera.setFanSpeed v).FailsClean) ∧
    (∀ g, (Camera.setGlobalGain g).FailsClean) ∧
    (∀ channel signal edge delay width,
      (Camera.setOutputSignal channel signal edge delay width).FailsClean) ∧
    (∀ r st e st', (Camera.setRoi r).exec st = (.error e, st') →
      st'.setup = st.setup ∨ st'.setup = { st.setup with prepared := false }) ∧
    (∀ st e st', Interface.prepareAcq.exec st = (.error e, st') →
      st' = st ∨ ∃ r, Camera.roi.exec st = (.ok r, st) ∧
        st'.setup = st.setup.withRing (st.host.ring.setLayout ⟨r.size, .bpp16⟩)) :=
  ⟨Camera.setTrigMode_failsClean, Camera.setExpTime_failsClean, Camera.setLatTime_failsClean,
    Camera.setNbFrames_failsClean, Camera.setTemperatureTarget_failsClean,
    Camera.setFanSpeed_failsClean, Camera.setGlobalGain_failsClean,
    Camera.setOutputSignal_failsClean, fun _ _ _ _ => Camera.setRoi_error,
    fun _ _ _ => Interface.prepareAcq_error⟩

/-- On a camera with a 16 × 16 sensor, both exceptions happen. After a prepare, a change to a
32 × 32 region inside the detector releases the frame and then fails, for the sensor is
smaller. After a 4 × 4 region and a trigger mode that a prepare refuses, a host prepare fails
after laying out the host's one-pixel buffers for the 4 × 4 region. -/
theorem failed_call_can_change_setup :
    (let sim : Sdk.Simulator :=
      { Sdk.Simulator.make { Sdk.SimConfig.default with sensorWidth := 16, sensorHeight := 16 }
        with initialized := true, opened := true }
    ∃ p, Reachable false (Plant.initial default default 0 sim (Host.make Ring.default)) p ∧
      let st := (default : Station).withPlant p
      st.setup.prepared = true ∧
      ((Camera.setRoi (Roi.make 0 0 32 32)).exec st).1.toBool = false ∧
      ((Camera.setRoi (Roi.make 0 0 32 32)).exec st).2.setup.prepared = false) ∧
    (let sim : Sdk.Simulator :=
      { Sdk.Simulator.make { Sdk.SimConfig.default with sensorWidth := 16, sensorHeight := 16 }
        with initialized := true, opened := true }
    ∃ p, Reachable false (Plant.initial default default 0 sim (Host.make Ring.default)) p ∧
      let st := (default : Station).withPlant p
      (Interface.prepareAcq.exec st).1.toBool = false ∧
      (Interface.prepareAcq.exec st).2.setup.layout ≠ st.setup.layout) := by
  constructor
  · intro sim
    -- a prepare of the whole 16 × 16 sensor
    have h : Reachable false _ _ := Reachable.of_runAlone
      (rfl : (Plant.initial default default 0 sim (Host.make Ring.default)).runAlone
        (fun _ _ _ => false) [.request .prepare, .call] = some (0, _))
    exact ⟨_, h, by decide +kernel, by decide +kernel, by decide +kernel⟩
  · intro sim
    -- a 4 × 4 region: its release and its programming, then a trigger mode that a prepare
    -- refuses
    have h : Reachable false _ _ := Reachable.of_runAlone
      (rfl : (Plant.initial default default 0 sim (Host.make Ring.default)).runAlone
        (fun _ _ _ => false)
        [.request (.setRoi ⟨true, 0, 0, 4, 4⟩), .call, .call,
          .request (.update fun ps => { ps with trigMode := .intTrigMult }), .call] = some (0, _))
    exact ⟨_, h, by decide +kernel, by decide +kernel⟩

end CameraAcquisition
