import CameraAcquisition.Proofs.Acquisition.Region
import CameraAcquisition.Proofs.Acquisition.Frames
import CameraAcquisition.Proofs.Host.Ring
import Mathlib.Tactic.Set

/-!
# The region a camera reports and the frame it prepares

`Camera.roi` reads the region programmed in the device and reports a disabled region as the
whole detector, a 2048 × 2048 sensor. A host prepare sizes the host's buffers to the region
reported, 16 bits a pixel, and then prepares the acquisition, which allocates the SDK frame at
the camera's own frame size.

On a camera whose sensor is the detector's, the reported region has the camera's frame size
(`Camera.roi_size`). With the region kept along every execution in which no prepare runs in the
middle of a region change (`RegionKept.of_reachable`), a prepared frame has the size of the
region reported, and a host prepare that succeeds leaves the host's buffers exactly the size
of the prepared frame's image (`prepared_frame_matches_region`). Both conditions are needed: a
camera with a 16 × 16 sensor prepares 16 × 16 frames while the whole detector is reported, and a
prepare between a region change's release and its programming keeps a frame of the old region
(`region_report_can_disagree`).

## What this module delivers

- `CamAct.exec_bind`, `HwAct.exec_bind`, `acq_exec`, `hw_exec`, `modifyRing_exec`.
- `Camera.roi_exec`, `Camera.roi_refused`, `Camera.roi_size`, `Camera.roi_of_fits`,
  `Interface.prepareAcq_exec` and `Interface.prepareAcq_fits`.
- `prepared_frame_matches_region` with its instance after a region change
  `prepared_frame_matches_region_after_change`, and `region_report_can_disagree`.
-/

set_option autoImplicit false

namespace CameraAcquisition

/-! ## Running camera and host operations -/

section Exec

variable {α β : Type}

@[simp] theorem Station.plant_sim (st : Station) : st.plant.sim = st.sim := rfl
@[simp] theorem Station.plant_ctl (st : Station) : st.plant.ctl = st.cam.ctl := rfl
@[simp] theorem Station.plant_host (st : Station) : st.plant.host = st.host := rfl
@[simp] theorem Station.withPlant_ctl (st : Station) (p : Plant) :
    (st.withPlant p).cam.ctl = p.ctl := rfl
@[simp] theorem Station.withPlant_host (st : Station) (p : Plant) :
    (st.withPlant p).host = p.host := rfl
@[simp] theorem Station.withPlant_sim (st : Station) (p : Plant) :
    (st.withPlant p).sim = p.sim := rfl

/-- A camera operation runs its first part, then the rest on the station it left; a failure
ends it. -/
theorem CamAct.exec_bind (x : CamAct α) (f : α → CamAct β) (st : Station) :
    (x >>= f).exec st = match x.exec st with
      | (.ok a, st') => (f a).exec st'
      | (.error e, st') => (.error e, st') := by
  simp only [CamAct.exec, ExceptT.run_bind, StateT.run_bind, Id.run_bind]
  rcases x.run.run st with ⟨_ | a, st'⟩ <;> rfl

/-- A host operation runs its first part, then the rest on the station it left; a failure ends
it. -/
theorem HwAct.exec_bind (x : HwAct α) (f : α → HwAct β) (st : Station) :
    (x >>= f).exec st = match x.exec st with
      | (.ok a, st') => (f a).exec st'
      | (.error e, st') => (.error e, st') := by
  simp only [HwAct.exec, ExceptT.run_bind, StateT.run_bind, Id.run_bind]
  rcases x.run.run st with ⟨_ | a, st'⟩ <;> rfl

/-- A controller operation runs on the station's plant. -/
theorem acq_exec (a : Act α) (st : Station) :
    (acq a).exec st = ((a.run' st.plant).1, st.withPlant (a.run' st.plant).2) := rfl

/-- The host sees a camera operation with its errors classified. -/
theorem hw_exec (a : CamAct α) (st : Station) :
    (hw a).exec st = ((a.exec st).1.mapError CameraError.toHost, (a.exec st).2) := by
  simp only [HwAct.exec, hw, CamAct.exec, ExceptT.run_mk, StateT.run_bind, Id.run_bind]
  rcases a.run.run st with ⟨_ | v, st'⟩ <;> rfl

theorem modifyRing_exec (g : Ring → Ring) (st : Station) :
    (modifyRing g).exec st =
      (.ok (), { st with host := { st.host with ring := g st.host.ring } }) := rfl

end Exec

/-! ## The region reported -/

namespace Camera

variable {st : Station}

/-- An answering camera reports its enabled region, and the whole detector for a disabled one. -/
theorem roi_exec (hl : st.sim.holdings.live = true) :
    Camera.roi.exec st =
      (.ok (if st.sim.roi.enable then
          Roi.make st.sim.roi.hOffset st.sim.roi.vOffset st.sim.roi.width st.sim.roi.height
        else Roi.fullFrame detectorSize), st) := by
  rw [Camera.roi, CamAct.exec_bind, device, acq_exec, run'_call, Station.plant_sim,
    st.sim.getRoi_live hl]
  dsimp only [Except.mapError]
  split_ifs <;> rfl

/-- A camera that does not answer reports no region, and nothing changes. -/
theorem roi_refused (hl : st.sim.holdings.live = false) :
    ∃ e, Camera.roi.exec st = (.error e, st) := by
  obtain ⟨err, hg⟩ := st.sim.getRoi_refused hl
  rw [Camera.roi, CamAct.exec_bind, device, acq_exec, run'_call, Station.plant_sim, hg]
  exact ⟨_, rfl⟩

/-- On a camera whose sensor is the detector's, the region reported has the camera's frame
size. -/
theorem roi_size (hl : st.sim.holdings.live = true)
    (hsensor : st.sim.config.sensorWidth = detectorSize.width ∧
      st.sim.config.sensorHeight = detectorSize.height) :
    ∃ r, Camera.roi.exec st = (.ok r, st) ∧
      (r.size.width, r.size.height) = st.sim.frameSize := by
  refine ⟨_, roi_exec hl, ?_⟩
  unfold Sdk.Simulator.frameSize
  -- a disabled region is the whole sensor, which is the whole detector
  split_ifs
  · rfl
  · rw [hsensor.1, hsensor.2]
    rfl

/-- On a camera with the detector's sensor, a frame that the camera hands out has the size of the
region reported. -/
theorem roi_of_fits {f : Sdk.Frame}
    (hsensor : st.sim.config.sensorWidth = detectorSize.width ∧
      st.sim.config.sensorHeight = detectorSize.height) (hf : f.Fits st.sim) :
    ∃ r, Camera.roi.exec st = (.ok r, st) ∧ r.size = ⟨f.width, f.height⟩ := by
  obtain ⟨hl, hsize, -⟩ := hf
  obtain ⟨r, hr, hrs⟩ := roi_size hl hsensor
  obtain ⟨hw, hh⟩ := Prod.mk.inj (hrs.trans hsize.symm)
  refine ⟨r, hr, ?_⟩
  rw [← hw, ← hh]

end Camera

/-! ## The host's buffers -/

/-- A host prepare reads the region, sizes the host's buffers to it and prepares on the station
it left. -/
theorem Interface.prepareAcq_exec (st : Station) :
    Interface.prepareAcq.exec st =
      match Camera.roi.exec st with
      | (.ok r, st₀) =>
        let st₁ : Station := { st₀ with
          host := { st₀.host with ring := st₀.host.ring.setLayout ⟨r.size, .bpp16⟩ } }
        ((Acquisition.prepare.run' st₁.plant).1.mapError CameraError.toHost,
          st₁.withPlant (Acquisition.prepare.run' st₁.plant).2)
      | (.error e, st₀) => (.error e.toHost, st₀) := by
  rw [Interface.prepareAcq, HwAct.exec_bind, hw_exec]
  rcases Camera.roi.exec st with ⟨_ | r, st₀⟩
  · rfl
  · dsimp only [Except.mapError]
    rw [HwAct.exec_bind, modifyRing_exec]
    dsimp only
    rw [hw_exec, acq_exec]
    rfl

/-- A host prepare that succeeds, on a camera with the detector's sensor whose prepared frame
fits, leaves a fitting frame prepared and the host's buffers laid out as the region it read, 16
bits a pixel. -/
theorem Interface.prepareAcq_fits {st st' : Station}
    (hsensor : st.sim.config.sensorWidth = detectorSize.width ∧
      st.sim.config.sensorHeight = detectorSize.height)
    (hfits : st.plant.FrameFits) (hexec : Interface.prepareAcq.exec st = (.ok (), st')) :
    ∃ f, st'.cam.ctl.frame = some f ∧ f.Fits st'.sim ∧
      st'.host.ring.layout = ⟨⟨f.width, f.height⟩, .bpp16⟩ := by
  rw [Interface.prepareAcq_exec] at hexec
  cases hl : st.sim.holdings.live
  · -- a camera that does not answer fails the prepare at once
    obtain ⟨e, hr⟩ := Camera.roi_refused hl
    rw [hr] at hexec
    cases hexec
  · obtain ⟨r, hr, hrs⟩ := Camera.roi_size hl hsensor
    rw [hr] at hexec
    dsimp only at hexec
    obtain ⟨hres, rfl⟩ := Prod.mk.inj hexec
    -- the prepare runs on the plant of the station with its buffers sized
    set p₁ : Plant := Station.plant
      { st with host := { st.host with ring := st.host.ring.setLayout ⟨r.size, .bpp16⟩ } }
    have hok : (Acquisition.prepare.run' p₁).1 = .ok () := by
      cases e : (Acquisition.prepare.run' p₁).1 <;> simp_all [Except.mapError]
    obtain ⟨f, hf⟩ := Acquisition.prepare_prepared hok
    have hre := Acquisition.prepare_reframes p₁
    have hfit : f.Fits (Acquisition.prepare.run' p₁).2.sim := hre.fits hfits f hf
    -- the region read before the prepare has the size of the frame after it
    obtain ⟨hw, hh⟩ := Prod.mk.inj
      (hrs.trans ((Sdk.Simulator.frameSize_congr _ hre.framing).symm.trans hfit.2.1.symm))
    refine ⟨f, hf, hfit, ?_⟩
    rw [Station.withPlant_host, Acquisition.prepare_host, ← hw, ← hh]
    simp [p₁]

/-! ## The prepared frame and the region reported -/

/-- On a camera with the detector's sensor, along every execution in which no prepare runs in
the middle of a region change: a prepared frame has the size of the region the camera reports,
and a host prepare that succeeds leaves a frame prepared and the host's buffers laid out as the
region reported at 16 bits a pixel, which is exactly the size of the frame's image. -/
theorem prepared_frame_matches_region {params : AcqParams} {timings : Timings}
    {deviceIndex : Nat} {sim : Sdk.Simulator} {host : Host} {st : Station}
    (hsensor : sim.config.sensorWidth = detectorSize.width ∧
      sim.config.sensorHeight = detectorSize.height)
    (h : ReachableAvoiding false Plant.PreparesMidRegion
      (Plant.initial params timings deviceIndex sim host) st.plant) :
    (∀ f, st.cam.ctl.frame = some f →
      ∃ r, Camera.roi.exec st = (.ok r, st) ∧ r.size = ⟨f.width, f.height⟩) ∧
    (∀ st', Interface.prepareAcq.exec st = (.ok (), st') →
      ∃ f, st'.cam.ctl.frame = some f ∧
        st'.host.ring.layout = ⟨⟨f.width, f.height⟩, .bpp16⟩ ∧
        st'.host.ring.layout.memSize = f.imgSize) := by
  have hk : RegionKept st.plant := (RegionKept.initial _ _ _ _ _).of_reachable h
  -- no step changes the sensor
  have hsensor' : st.sim.config.sensorWidth = detectorSize.width ∧
      st.sim.config.sensorHeight = detectorSize.height := by
    rw [← Station.plant_sim, h.config_eq]
    exact hsensor
  refine ⟨fun f hf => Camera.roi_of_fits hsensor' (hk.fits f hf), fun st' hexec => ?_⟩
  obtain ⟨f, hf, hfit, hlayout⟩ := Interface.prepareAcq_fits hsensor' hk.fits hexec
  refine ⟨f, hf, hlayout, ?_⟩
  rw [hlayout]
  simp [Layout.memSize, Sdk.Frame.imgSize, Depth.bytes, hfit.2.2]

/-- The prepared frame and the region reported after a region change: one host thread sets a
4 × 4 region on an opened default camera, which releases no frame and programs the region, and
then prepares, which allocates a 4 × 4 frame. -/
theorem prepared_frame_matches_region_after_change :
    let init := Plant.onOpenedCamera AcqParams.default
    (init.sim.config.sensorWidth = detectorSize.width ∧
      init.sim.config.sensorHeight = detectorSize.height) ∧
    ∃ p, ReachableAvoiding false Plant.PreparesMidRegion init p ∧
    p.ctl.frame.map (fun f => (f.width, f.height)) = some (4, 4) ∧
    ∀ st : Station, st.plant = p →
    (∀ f, st.cam.ctl.frame = some f →
      ∃ r, Camera.roi.exec st = (.ok r, st) ∧ r.size = ⟨f.width, f.height⟩) ∧
    (∀ st', Interface.prepareAcq.exec st = (.ok (), st') →
      ∃ f, st'.cam.ctl.frame = some f ∧
        st'.host.ring.layout = ⟨⟨f.width, f.height⟩, .bpp16⟩ ∧
        st'.host.ring.layout.memSize = f.imgSize) := by
  dsimp only
  -- with one host thread no prepare can come in the middle of its region change
  have h : ReachableAvoiding false Plant.PreparesMidRegion
      (Plant.onOpenedCamera AcqParams.default) _ :=
    ReachableAvoiding.of_runAlone (fun _ _ _ hi _ hb => (hi.not_preparesMidRegion _ hb).elim)
      (rfl : (Plant.onOpenedCamera AcqParams.default).runAlone (fun _ _ _ => false)
        [.request (.setRoi ⟨true, 0, 0, 4, 4⟩), .call, .call, .request .prepare, .call] =
          some (0, _))
  refine ⟨⟨rfl, rfl⟩, _, h, by decide +kernel, fun st hst => ?_⟩
  rw [← hst] at h
  exact prepared_frame_matches_region ⟨rfl, rfl⟩ h

/-- Without either condition the prepared frame and the region reported disagree. On a camera
with a 16 × 16 sensor, a prepare allocates a 16 × 16 frame while the camera reports the whole
detector. On the detector's sensor, host thread 1 prepares after host thread 0 released the
frame for a 4 × 4 region and before it programs the region: the frame keeps the whole sensor
while the camera reports the 4 × 4 region. -/
theorem region_report_can_disagree :
    (let sim : Sdk.Simulator :=
      { Sdk.Simulator.make { Sdk.SimConfig.default with sensorWidth := 16, sensorHeight := 16 }
        with initialized := true, opened := true }
    ∃ p, Reachable false (Plant.initial default default 0 sim default) p ∧
      ∃ f, p.ctl.frame = some f ∧ ∀ st : Station, st.plant = p →
        ∃ r, Camera.roi.exec st = (.ok r, st) ∧ r.size ≠ ⟨f.width, f.height⟩) ∧
    (let sim : Sdk.Simulator :=
      { Sdk.Simulator.make Sdk.SimConfig.default with initialized := true, opened := true }
    ∃ p, Reachable false (Plant.initial default default 0 sim default) p ∧
      ∃ f, p.ctl.frame = some f ∧ ∀ st : Station, st.plant = p →
        ∃ r, Camera.roi.exec st = (.ok r, st) ∧ r.size ≠ ⟨f.width, f.height⟩) := by
  -- the region a station at a plant reports, read off the plant's camera
  have reports : ∀ (p : Plant) (attr : Sdk.RoiAttr) (f : Sdk.Frame),
      p.sim.holdings.live = true → p.sim.roi = attr →
      (if attr.enable then Roi.make attr.hOffset attr.vOffset attr.width attr.height
        else Roi.fullFrame detectorSize).size ≠ ⟨f.width, f.height⟩ →
      ∀ st : Station, st.plant = p →
        ∃ r, Camera.roi.exec st = (.ok r, st) ∧ r.size ≠ ⟨f.width, f.height⟩ := by
    intro p attr f hl hattr hne st hst
    subst hst
    refine ⟨_, Camera.roi_exec hl, ?_⟩
    rwa [← Station.plant_sim, hattr]
  constructor
  · intro sim
    -- one prepare, of the whole 16 × 16 sensor
    have h : Reachable false _ _ := Reachable.of_runAlone
      (rfl : (Plant.initial default default 0 sim default).runAlone (fun _ _ _ => false)
        [.request .prepare, .call] = some (0, _))
    refine ⟨_, h, Sdk.Frame.make 16 16 2 Sdk.headerBytes, by decide +kernel, ?_⟩
    exact reports _ (Sdk.Simulator.fullRoi sim.config) _ (by decide +kernel) (by decide +kernel)
      (by decide)
  · intro sim
    -- host thread 0 releases the frame for a 4 × 4 region
    obtain ⟨h, hi⟩ := Reachable.runAlone (.init : Reachable false _ _)
      (OthersIdle.initial _ _ _ _ _)
      (rfl : (Plant.initial default default 0 sim default).runAlone (fun _ _ _ => false)
        [.request (.setRoi ⟨true, 0, 0, 4, 4⟩), .call] = some (0, _))
    -- host thread 1 prepares before host thread 0 programs the region
    have h1 := h.step (.request 1 .prepare (hi.mayRequest_beside (by decide) rfl rfl _ nofun))
    have h1 := h1.step (.call 1 false (.ok ()) rfl rfl)
    have h1 := h1.step (.call 0 false (.ok ()) rfl rfl)
    refine ⟨_, h1, Sdk.Frame.make 2048 2048 2 Sdk.headerBytes, by decide +kernel, ?_⟩
    exact reports _ ⟨true, 0, 0, 4, 4⟩ _ (by decide +kernel) (by decide +kernel) (by decide)

end CameraAcquisition
