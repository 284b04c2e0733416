import CameraAcquisition.Proofs.Sdk.Resources

/-!
# What the SDK calls do to the region

A simulated camera delivers frames of the size its region fixes: the enabled region, else the
whole sensor (`Simulator.frameSize`). `Simulator.framing` is the part of a camera that fixes
what a frame is: the camera's build, the sensor included, whether it answers calls, and the
region programmed. Writing the region changes the region alone; every other call the
controller makes leaves the framing as it was.

An allocation that the camera takes hands out a frame of the camera's frame size with two bytes
a pixel (`Frame.Fits`), and reading the region of an answering camera answers the region and
changes nothing.

## What this module delivers

- `Sdk.Framing`, `Simulator.framing`, `Simulator.frameSize_congr`, `Frame.Fits` with
  `Frame.Fits.congr`.
- The calls that keep the framing, `Simulator.config_setRoi`, `live_setRoi`, `bufAlloc_fits`,
  `getRoi_live` and `getRoi_refused`.
-/

set_option autoImplicit false

namespace CameraAcquisition

namespace Sdk

/-- What fixes the frames of a camera: its build, the sensor included, whether it answers
calls, and the region programmed. -/
structure Framing where
  config : SimConfig
  live : Bool
  roi : RoiAttr

namespace Simulator

/-- What fixes the frames of a simulated camera. -/
def framing (s : Simulator) : Framing := ⟨s.config, s.holdings.live, s.roi⟩

variable (s : Simulator)

/-- The frame size is read off the framing. -/
theorem frameSize_congr {s' : Simulator} (h : s'.framing = s.framing) :
    s'.frameSize = s.frameSize := by
  have hc : s'.config = s.config := congrArg Framing.config h
  have hr : s'.roi = s.roi := congrArg Framing.roi h
  simp only [frameSize, hc, hr]

@[simp] theorem framing_capStart (m : CaptureMode) : (s.capStart m).2.framing = s.framing := by
  unfold capStart
  rw [whenOpen_eq]
  split
  · split_ifs <;> rfl
  · rfl

@[simp] theorem framing_capStop : s.capStop.2.framing = s.framing := by
  unfold capStop
  rw [whenOpen_eq]
  split <;> rfl

@[simp] theorem framing_bufAlloc : s.bufAlloc.2.framing = s.framing := by
  unfold bufAlloc
  rw [whenOpen_eq]
  split
  · split_ifs <;> rfl
  · rfl

@[simp] theorem framing_bufRelease : s.bufRelease.2.framing = s.framing := by
  unfold bufRelease
  rw [whenOpen_eq]
  split
  · split_ifs <;> rfl
  · rfl

@[simp] theorem framing_capTrigger : s.capTrigger.2.framing = s.framing := by
  unfold capTrigger
  rw [whenOpen_eq]
  split <;> rfl

@[simp] theorem framing_setCapTrigger (attr : TriggerAttr) :
    (s.setCapTrigger attr).2.framing = s.framing := by
  unfold setCapTrigger
  rw [whenOpen_eq]
  split
  · split <;> rfl
  · rfl

@[simp] theorem framing_abortWait : s.abortWait.2.framing = s.framing := by
  unfold abortWait
  rw [whenOpen_eq]
  split <;> rfl

@[simp] theorem framing_doSoftwareTrigger : s.doSoftwareTrigger.2.framing = s.framing := by
  unfold doSoftwareTrigger
  rw [whenOpen_eq]
  split
  · split <;> rfl
  · rfl

@[simp] theorem framing_waitForFrame (patient : Bool) (f : Frame) :
    (s.waitForFrame patient f).2.framing = s.framing := by
  unfold waitForFrame deliver
  split
  · rfl
  · split_ifs <;> (try split) <;> (try split_ifs) <;> rfl

/-- Writing the region keeps the camera's build. -/
@[simp] theorem config_setRoi (attr : RoiAttr) : (s.setRoi attr).2.config = s.config := by
  unfold setRoi
  rw [whenOpen_eq]
  split
  · split_ifs <;> rfl
  · rfl

/-- Writing the region keeps the camera answering as it did. -/
@[simp] theorem live_setRoi (attr : RoiAttr) :
    (s.setRoi attr).2.holdings.live = s.holdings.live := by
  rw [holdings_setRoi]

/-- Reading the region of an answering camera answers the region and changes nothing. -/
theorem getRoi_live (hl : s.holdings.live = true) : s.getRoi = (.ok s.roi, s) := by
  unfold getRoi
  rw [whenOpen_eq, if_pos hl]

/-- A camera that does not answer refuses to read the region and changes nothing. -/
theorem getRoi_refused (hl : s.holdings.live = false) : ∃ err, s.getRoi = (.error err, s) := by
  unfold getRoi
  rw [whenOpen_eq, if_neg (by simp [hl])]
  exact ⟨_, rfl⟩

end Simulator

namespace Frame

/-- `f` is a frame that the camera `s` hands out as it stands: the camera answers, and `f` has
its frame size and two bytes a pixel. -/
def Fits (f : Frame) (s : Simulator) : Prop :=
  s.holdings.live = true ∧ (f.width, f.height) = s.frameSize ∧ f.elemBytes = 2

/-- A frame fits every camera framed as one it fits. -/
theorem Fits.congr {f : Frame} {s s' : Simulator} (h : f.Fits s) (hs : s'.framing = s.framing) :
    f.Fits s' := by
  obtain ⟨hl, hsize, hb⟩ := h
  have hl' : s'.holdings.live = s.holdings.live := congrArg Framing.live hs
  exact ⟨hl'.trans hl, hsize.trans (Simulator.frameSize_congr s hs).symm, hb⟩

end Frame

/-- An allocation that the camera takes hands out a frame of the camera's frame size. -/
theorem Simulator.bufAlloc_fits (s : Simulator) {f : Frame} (h : s.bufAlloc.1 = .ok f) :
    f.Fits s := by
  unfold bufAlloc at h
  rw [whenOpen_eq] at h
  by_cases hl : s.holdings.live
  · rw [if_pos hl] at h
    split_ifs at h
    -- the frame is made of the frame size read before the allocation
    obtain rfl := (Except.ok.inj h).symm
    exact ⟨hl, rfl, rfl⟩
  · rw [if_neg hl] at h
    cases h

end Sdk

end CameraAcquisition
