import CameraAcquisition.Proofs.Camera.Failures
import CameraAcquisition.Proofs.Camera.RegionCheck

/-!
# Writing a region and reading it back

A region change checks the region (`Camera.checkRoi`), releases the prepared frame, and writes
the checked region to the device: the full frame of the 2048 × 2048 detector as a disabled
region, which the device turns into its whole sensor, and any other region as an enabled one,
field by field. Reading the region back reports a disabled region as the full frame of the
detector, whatever the sensor, and an enabled one field by field.

So a region change that succeeds is read back as exactly the region the check answered, and
the device holds the disabled whole sensor or the enabled region. A change that fails leaves
what a region read answers as it was: the check changes nothing, a release keeps the device's
region and whether it answers, and a device that refuses a region stays as it was
(`set_region_reads_back`).

## What this module delivers

- `Sdk.Simulator.setRoi_ok`, `Sdk.Simulator.getRoi_bufRelease`.
- `device_ok`, `releaseBuffer_sim`, `Camera.roi_answer_congr`,
  `Camera.releaseBuffer_keeps_region`.
- `Camera.set_region_reads_back`.
-/

set_option autoImplicit false

namespace CameraAcquisition

namespace Sdk.Simulator

variable {s : Simulator}

/-- A region write the camera takes leaves it answering, holding the region, or the whole
sensor for a disabled one. -/
theorem setRoi_ok {attr : RoiAttr} {u : Unit} (h : (s.setRoi attr).1 = .ok u) :
    (s.setRoi attr).2.holdings.live = true ∧
      (s.setRoi attr).2.roi = if attr.enable then attr else fullRoi s.config := by
  rw [live_setRoi]
  unfold setRoi at h ⊢
  rw [whenOpen_eq] at h ⊢
  by_cases hl : s.holdings.live
  · simp only [hl, if_true, true_and] at h ⊢
    -- a refusal answers an error, so the write went through
    split_ifs at h ⊢ <;> cases h <;> rfl
  · simp [hl] at h

/-- Releasing the buffer leaves what a region read answers. -/
theorem getRoi_bufRelease : s.bufRelease.2.getRoi.1 = s.getRoi.1 := by
  unfold bufRelease getRoi
  simp only [whenOpen_eq]
  split_ifs <;> simp_all [holdings, closedError]

end Sdk.Simulator

/-- A release of the prepared frame leaves the device as it was, or releases its buffer. -/
theorem releaseBuffer_sim (st : Station) :
    ((acq Acquisition.releaseBuffer).exec st).2.sim = st.sim ∨
      ((acq Acquisition.releaseBuffer).exec st).2.sim = st.sim.bufRelease.2 := by
  rw [acq_exec, Acquisition.releaseBuffer_run']
  split_ifs
  · exact .inl rfl
  · exact .inr rfl
  · exact .inl rfl

/-- A device call that goes through answered its value and left the device as the call did. -/
theorem device_ok {α : Type} {f : Sdk.Simulator → Sdk.Answer α} {st st' : Station} {v : α}
    (h : (device f).exec st = (.ok v, st')) :
    (f st.sim).1 = .ok v ∧ st' = { st with sim := (f st.sim).2 } := by
  rw [device_exec] at h
  obtain ⟨hres, rfl⟩ := Prod.mk.inj h
  refine ⟨?_, rfl⟩
  revert hres
  cases (f st.sim).1 <;> intro hres <;> cases hres
  rfl

namespace Camera

variable {st st' : Station}

/-- The region reported is read off what the device answers to a region read. -/
theorem roi_answer_congr (h : st'.sim.getRoi.1 = st.sim.getRoi.1) :
    (roi.exec st').1 = (roi.exec st).1 := by
  rw [roi, CamAct.exec_bind, CamAct.exec_bind, device_exec, device_exec, h]
  rcases st.sim.getRoi.1 with _ | a
  · rfl
  · -- the decoding of the region read does not look at the station
    dsimp only [Except.mapError]
    split_ifs <;> rfl

/-- A release of the prepared frame keeps the region reported and the sensor. -/
theorem releaseBuffer_keeps_region (st : Station) :
    (((acq Acquisition.releaseBuffer).exec st).2.sim.getRoi.1 = st.sim.getRoi.1) ∧
      ((acq Acquisition.releaseBuffer).exec st).2.sim.config = st.sim.config := by
  rcases releaseBuffer_sim st with h | h <;> rw [h]
  · exact ⟨rfl, rfl⟩
  · exact ⟨Sdk.Simulator.getRoi_bufRelease,
      congrArg Sdk.Framing.config st.sim.framing_bufRelease⟩

/-- A region change that succeeds is read back as the region the check answered: the device
holds the whole sensor, disabled, for the full frame of the detector, and the region, enabled,
for any other. A region change that fails leaves what a region read answers as it was. -/
theorem set_region_reads_back (r : Roi) (st : Station) :
    (∀ st', (setRoi r).exec st = (.ok (), st') →
      ∃ r', (checkRoi r).exec st = (.ok r', st) ∧ roi.exec st' = (.ok r', st') ∧
        st'.sim.roi = if r' = Roi.fullFrame detectorSize then Sdk.Simulator.fullRoi st.sim.config
          else ⟨true, r'.topLeft.x, r'.topLeft.y, r'.size.width, r'.size.height⟩) ∧
    (∀ e st', (setRoi r).exec st = (.error e, st') → (roi.exec st').1 = (roi.exec st).1) := by
  have hc := checkRoi_readOnly r st
  constructor
  · intro st' h
    rw [setRoi, CamAct.exec_bind] at h
    rcases hr : (checkRoi r).exec st with ⟨_ | r', st₀⟩ <;> rw [hr] at h hc <;>
      dsimp only at hc <;> subst hc
    · cases h
    · dsimp only at h
      rw [CamAct.exec_bind] at h
      rcases hrel : (acq Acquisition.releaseBuffer).exec st₀ with ⟨_ | _, st₁⟩ <;>
        rw [hrel] at h
      · cases h
      · dsimp only at h
        obtain ⟨hok, rfl⟩ := device_ok h
        obtain ⟨hlive, hroi⟩ := Sdk.Simulator.setRoi_ok hok
        have hconf : st₁.sim.config = st₀.sim.config := by
          simpa only [hrel] using (releaseBuffer_keeps_region st₀).2
        refine ⟨r', rfl, ?_⟩
        dsimp only
        rw [roi_exec hlive, hroi]
        -- the device took the region: the full frame as a disabled one, any other enabled
        by_cases hf : r' = Roi.fullFrame detectorSize
        · simp [hf, hconf, Sdk.Simulator.fullRoi]
        · simp [hf, Roi.make]
  · intro e st' h
    rw [setRoi, CamAct.exec_bind] at h
    rcases hr : (checkRoi r).exec st with ⟨_ | r', st₀⟩ <;> rw [hr] at h hc <;>
      dsimp only at hc <;> subst hc
    · -- the check refuses the region before anything changes
      cases h
      rfl
    · dsimp only at h
      rw [CamAct.exec_bind] at h
      have hkeep := (releaseBuffer_keeps_region st₀).1
      rcases hrel : (acq Acquisition.releaseBuffer).exec st₀ with ⟨_ | _, st₁⟩ <;>
        rw [hrel] at h hkeep
      · cases h
        exact roi_answer_congr hkeep
      · -- the device refuses the region and stays as the release left it
        have hst := device_failsClean (Sdk.Simulator.setRoi_keepsOnError _) _ _ _ h
        subst hst
        exact roi_answer_congr hkeep

end Camera

end CameraAcquisition
