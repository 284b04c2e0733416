import CameraAcquisition.Proofs.Geometry.Snap
import CameraAcquisition.Camera

/-!
# Checking a region on the camera

`Camera.checkRoi` answers the full frame for an inactive region, refuses a region that reaches
past the 2048 × 2048 detector, and fits any other region to the camera's grid, if it has one, on
32-bit words: a value of the fit that overflows a word is the camera's error. It changes
nothing. So what it answers is always an active region inside the detector
(`Camera.checkRoi_ok_inside`), which the device takes as its region whatever the grid
(`checked_region_fits_sensor`). Under a usable grid, checking a region the check fitted gives
the same region back: the values of the second fit stay within the detector but for the rounded
minimum, which the first fit formed too (`Grid.fitWord_fit_of_fits`). The full frame answered
for an inactive region was not fitted; checking it keeps it when its fit overflows no word, the
step dividing 2048 or exceeding it, and overflows when the minimum rounds up past every word
(`checked_region_is_fixed`, `checked_full_frame_overflows`).

## What this module delivers

- `Roi.isActive_iff`, `Grid.fit_within`, `Grid.step_le_alignUp`,
  `Grid.alignment_lt_word_of_fits`, `Grid.fitWord_fit_of_fits`, `Grid.fit_fullFrame`,
  `Settings.validate_grid`.
- `Camera.exec_overflow`, `Camera.checkRoi_inactive`, `Camera.checkRoi_inside`,
  `Camera.checkRoi_outside`, `Camera.checkRoi_ok`, `Camera.checkRoi_ok_inside`,
  `Camera.checkRoi_fits`.
- `Sdk.Simulator.setRoi_accepts`: the device refuses a region of positive size inside its
  sensor only while it is closed or capturing.
- `checked_region_fits_sensor`, `checked_region_is_fixed` with its instance
  `checked_region_is_fixed_on_grid`, and `checked_full_frame_overflows`.
-/

set_option autoImplicit false

namespace CameraAcquisition

theorem Roi.isActive_iff (r : Roi) : r.isActive = true ↔ 0 < r.size.width ∧ 0 < r.size.height := by
  simp [Roi.isActive, Size.isEmpty, Nat.pos_iff_ne_zero]

namespace Grid

/-- A fitted region lies inside the detector, each side is at least the minimum or the
detector's side, and a side the request and the detector both have is not empty. -/
theorem fit_within (g : Grid) (r : Roi) (d : Size) :
    (g.fit r d).topLeft.x + (g.fit r d).size.width ≤ d.width ∧
    (g.fit r d).topLeft.y + (g.fit r d).size.height ≤ d.height ∧
    min g.minSize d.width ≤ (g.fit r d).size.width ∧
    min g.minSize d.height ≤ (g.fit r d).size.height ∧
    (0 < r.size.width → 0 < d.width → 0 < (g.fit r d).size.width) ∧
    (0 < r.size.height → 0 < d.height → 0 < (g.fit r d).size.height) := by
  rw [fit_eq]
  exact ⟨snap_inside .., snap_inside .., min_le_snap .., min_le_snap .., snap_pos, snap_pos⟩

/-- A positive length rounds up to at least one step. -/
theorem step_le_alignUp (g : Grid) {v : Nat} (hv : 0 < v) : g.step ≤ alignUp v g.step :=
  Nat.le_of_dvd (Nat.lt_of_lt_of_le hv (alignUp_ge v _ g.step_pos)) (alignUp_dvd v _)

/-- A usable grid that fits a region of positive width with values that fit words has an
alignment that fits a word: the grown width rounds up to at least one step. -/
theorem alignment_lt_word_of_fits {g : Grid} {r : Roi} {d : Size} (hv : g.isValid = true)
    (hw : 0 < r.size.width) (hfits : ∀ v ∈ g.fitSteps r d, v < wordSize) :
    g.alignment < wordSize := by
  obtain ⟨j, hj⟩ := (isValid_iff g).1 hv
  have hstep : g.step = g.alignment := step_eq (by rw [hj]; exact Nat.two_pow_pos j)
  have hmem : alignUp (r.size.width + (r.topLeft.x - g.start r.topLeft.x)) g.step ∈
      g.fitSteps r d :=
    List.mem_append_left _ (by rw [snapSteps_eq]; simp)
  have hle := g.step_le_alignUp (v := r.size.width + (r.topLeft.x - g.start r.topLeft.x))
    (by omega)
  have := hfits _ hmem
  omega

/-- A region of positive width that a usable grid fits to the detector with every value within a
word is fitted again, to itself, within words: the values of the second fit stay within the
detector but for the rounded minimum, which the first fit formed too. -/
theorem fitWord_fit_of_fits {g : Grid} {r : Roi} (hv : g.isValid = true) (hw : 0 < r.size.width)
    (hfits : ∀ v ∈ g.fitSteps r detectorSize, v < wordSize) :
    g.fitWord (g.fit r detectorSize) detectorSize = .ok (g.fit r detectorSize) := by
  have ha := alignment_lt_word_of_fits hv hw hfits
  have hmin : alignUp g.minSize g.step < wordSize :=
    hfits _ (List.mem_append_left _ (alignUp_minSize_mem_snapSteps ..))
  obtain ⟨hfx, hfy, -⟩ := g.fit_within r detectorSize
  have hfits' : ∀ v ∈ g.fitSteps (g.fit r detectorSize) detectorSize, v < wordSize :=
    fun v hvm => (fitSteps_lt_word hv ha hfx hfy (by decide) (by decide) v hvm).elim id
      fun e => e ▸ hmin
  rw [fitWord_ok_iff.2 ⟨hfits', rfl⟩, fit_fit]

/-- A usable grid keeps the full frame of the sensor. -/
theorem fit_fullFrame {g : Grid} (hv : g.isValid = true) :
    g.fit (Roi.fullFrame detectorSize) detectorSize = Roi.fullFrame detectorSize := by
  have h := snap_full_axis (step_dvd_or_gt_of_isValid hv)
  rw [fit_eq]
  simp only [Roi.fullFrame, Roi.make, detectorSize, h]

end Grid

/-- A grid in settings that pass their check is usable. -/
theorem Settings.validate_grid {s : Settings} {g : Grid} (hs : s.validate = .ok ())
    (hg : s.roiConstraint = some g) : g.isValid = true := by
  unfold Settings.validate at hs
  split_ifs at hs
  rw [hg] at hs
  simp only at hs
  split_ifs at hs with hv
  exact hv

/-! ## What a check answers -/

namespace Camera

variable {r r' : Roi} {st st' : Station}

/-- An overflow of a fit is thrown as the camera's error. -/
theorem exec_overflow (e : Except Overflow Roi) (st : Station) :
    (match e with
      | .ok r' => pure r'
      | .error o => throw (.overflow o) : CamAct Roi).exec st = (e.mapError .overflow, st) := by
  cases e <;> rfl

theorem checkRoi_inactive (hr : r.isActive = false) (st : Station) :
    (checkRoi r).exec st = (.ok (Roi.fullFrame detectorSize), st) := by
  simp [checkRoi, hr, CamAct.exec]

theorem checkRoi_inside (hr : r.isActive = true)
    (hx : r.topLeft.x + r.size.width ≤ detectorSize.width)
    (hy : r.topLeft.y + r.size.height ≤ detectorSize.height) (st : Station) :
    (checkRoi r).exec st = ((match st.cam.grid with
      | some g => (g.fitWord r detectorSize).mapError .overflow
      | none => .ok r), st) := by
  simp [checkRoi, hr, CamAct.exec, Roi.bottomRight, Nat.not_lt.2 hx, Nat.not_lt.2 hy, getCam]
  -- the grid is read from the station, and an overflow of the fit is the camera's error
  obtain ⟨⟨ctl, worker, timers, callers, grid, temp⟩, sim, host⟩ := st
  rcases grid with _ | g
  · rfl
  · exact exec_overflow (g.fitWord r detectorSize) _

theorem checkRoi_outside (hr : r.isActive = true)
    (h : detectorSize.width < r.topLeft.x + r.size.width ∨
      detectorSize.height < r.topLeft.y + r.size.height) (st : Station) :
    ∃ e, (checkRoi r).exec st = (.error e, st) := by
  simp [checkRoi, hr, CamAct.exec, Roi.bottomRight, h]

/-- A check that answers a region leaves the station as it was, and answers the full frame for
an inactive region or the fitted region for an active one inside the detector. -/
theorem checkRoi_ok (h : (checkRoi r).exec st = (.ok r', st')) :
    st' = st ∧ ((r.isActive = false ∧ r' = Roi.fullFrame detectorSize) ∨
      (r.isActive = true ∧ r.topLeft.x + r.size.width ≤ detectorSize.width ∧
        r.topLeft.y + r.size.height ≤ detectorSize.height ∧
        r' = match st.cam.grid with
          | some g => g.fit r detectorSize
          | none => r)) := by
  cases hr : r.isActive
  · rw [checkRoi_inactive hr] at h
    cases h
    exact ⟨rfl, .inl ⟨rfl, rfl⟩⟩
  · by_cases hin : r.topLeft.x + r.size.width ≤ detectorSize.width ∧
        r.topLeft.y + r.size.height ≤ detectorSize.height
    · rw [checkRoi_inside hr hin.1 hin.2] at h
      obtain ⟨hr', rfl⟩ := Prod.mk.inj h
      refine ⟨rfl, .inr ⟨rfl, hin.1, hin.2, ?_⟩⟩
      cases hg : st.cam.grid with
      | none =>
        rw [hg] at hr'
        exact (Except.ok.inj hr').symm
      | some g =>
        -- the fit on words answered, so it answered the fit
        rw [hg] at hr'
        cases hf : g.fitWord r detectorSize with
        | error o => simp [hf, Except.mapError] at hr'
        | ok r'' =>
          simp only [hf, Except.mapError, Except.ok.injEq] at hr'
          rw [← hr']
          exact (Grid.fitWord_ok_iff.1 hf).2
    · -- a region reaching past the detector is refused
      obtain ⟨e, he⟩ := checkRoi_outside hr (by omega) st
      rw [he] at h
      cases h

/-- What a check answers is an active region inside the detector. -/
theorem checkRoi_ok_inside (h : (checkRoi r).exec st = (.ok r', st')) :
    r'.isActive = true ∧ r'.topLeft.x + r'.size.width ≤ detectorSize.width ∧
      r'.topLeft.y + r'.size.height ≤ detectorSize.height := by
  obtain ⟨-, ⟨-, rfl⟩ | ⟨hr, hx, hy, rfl⟩⟩ := checkRoi_ok h
  · exact ⟨rfl, by decide, by decide⟩
  · cases st.cam.grid with
    | none => exact ⟨hr, hx, hy⟩
    | some g =>
      -- the fitted region is inside the detector, and not empty since the request is not
      obtain ⟨hfx, hfy, -, -, hw, hh⟩ := g.fit_within r detectorSize
      obtain ⟨hrw, hrh⟩ := (Roi.isActive_iff r).1 hr
      exact ⟨(Roi.isActive_iff _).2 ⟨hw hrw (by decide), hh hrh (by decide)⟩, hfx, hfy⟩

/-- A check that fits a region on a grid answers only when every value of the fit fits a word. -/
theorem checkRoi_fits {g : Grid} (hr : r.isActive = true)
    (hx : r.topLeft.x + r.size.width ≤ detectorSize.width)
    (hy : r.topLeft.y + r.size.height ≤ detectorSize.height) (hgrid : st.cam.grid = some g)
    (h : (checkRoi r).exec st = (.ok r', st')) :
    ∀ v ∈ g.fitSteps r detectorSize, v < wordSize := by
  rw [checkRoi_inside hr hx hy, hgrid] at h
  cases hf : g.fitWord r detectorSize with
  | error o => simp [hf, Except.mapError] at h
  | ok r'' => exact (Grid.fitWord_ok_iff.1 hf).1

end Camera

/-- The device refuses an enabled region of positive size inside its sensor only while it is
closed or capturing: never as empty or out of range. -/
theorem Sdk.Simulator.setRoi_accepts {s : Sdk.Simulator} {x y w h : Nat} (hw : 0 < w)
    (hh : 0 < h) (hx : x + w ≤ s.config.sensorWidth) (hy : y + h ≤ s.config.sensorHeight)
    {err : Sdk.CallError} (he : (s.setRoi ⟨true, x, y, w, h⟩).1 = .error err) :
    err.code ≠ .invalidParam ∧ err.code ≠ .outOfRange := by
  unfold Sdk.Simulator.setRoi Sdk.Simulator.whenOpen at he
  rcases hc : s.closedError "set_roi" with _ | e <;> simp only [hc] at he
  · -- an open device checks the region, which passes, so it refuses only while capturing
    have hne : ¬(w = 0 ∨ h = 0) := by omega
    have hin : ¬(x + w > s.config.sensorWidth ∨ y + h > s.config.sensorHeight) := by omega
    simp only [hne, hin, if_false, if_true] at he
    split_ifs at he
    cases he
    decide
  · -- a closed device is not initialised or not opened
    cases he
    unfold Sdk.Simulator.closedError at hc
    split_ifs at hc <;> cases hc <;> decide

/-! ## Checked regions on the sensor, checked again -/

/-- A fitted region lies inside the detector, has sides of at least the minimum or the
detector's side, and is not empty where the request and the detector are not. So a region the
camera's check answers, whatever its grid, is one a device with the 2048 × 2048 sensor takes:
it never refuses it as empty or out of range. -/
theorem checked_region_fits_sensor :
    (∀ (g : Grid) (r : Roi) (d : Size),
      (g.fit r d).topLeft.x + (g.fit r d).size.width ≤ d.width ∧
      (g.fit r d).topLeft.y + (g.fit r d).size.height ≤ d.height ∧
      min g.minSize d.width ≤ (g.fit r d).size.width ∧
      min g.minSize d.height ≤ (g.fit r d).size.height ∧
      (0 < r.size.width → 0 < d.width → 0 < (g.fit r d).size.width) ∧
      (0 < r.size.height → 0 < d.height → 0 < (g.fit r d).size.height)) ∧
    (∀ (st st' : Station) (r r' : Roi) (s : Sdk.Simulator),
      (Camera.checkRoi r).exec st = (.ok r', st') →
      s.config.sensorWidth = detectorSize.width → s.config.sensorHeight = detectorSize.height →
      ∀ err, (s.setRoi ⟨true, r'.topLeft.x, r'.topLeft.y, r'.size.width, r'.size.height⟩).1 =
          .error err →
        err.code ≠ .invalidParam ∧ err.code ≠ .outOfRange) := by
  refine ⟨Grid.fit_within, fun st st' r r' s h hsw hsh err he => ?_⟩
  obtain ⟨hr, hx, hy⟩ := Camera.checkRoi_ok_inside h
  obtain ⟨hw, hh⟩ := (Roi.isActive_iff r').1 hr
  exact Sdk.Simulator.setRoi_accepts hw hh (hsw ▸ hx) (hsh ▸ hy) he

/-- Fitting a fitted region changes nothing. So on a camera whose grid comes from settings that
pass their check, checking a region the check answered gives it back unchanged, but for one
case: the check answers the full frame for an inactive region without fitting it, and checking
the full frame fits it, which can overflow a word where the grid's minimum rounds up past every
word. -/
theorem checked_region_is_fixed (s : Settings) (st st' : Station) (r r' : Roi)
    (hs : s.validate = .ok ()) (hg : st.cam.grid = s.roiConstraint)
    (h : (Camera.checkRoi r).exec st = (.ok r', st')) :
    (∀ (g : Grid) (r : Roi) (d : Size), g.fit (g.fit r d) d = g.fit r d) ∧
    ((Camera.checkRoi r').exec st' = (.ok r', st') ∨
      r.isActive = false ∧ ∃ o, (Camera.checkRoi r').exec st' = (.error (.overflow o), st')) := by
  refine ⟨Grid.fit_fit, ?_⟩
  obtain ⟨hr', hx', hy'⟩ := Camera.checkRoi_ok_inside h
  obtain ⟨rfl, ⟨hin, rfl⟩ | ⟨hr, hx, hy, rfl⟩⟩ := Camera.checkRoi_ok h
  · -- the full frame is fitted to itself by a usable grid, if the fit overflows no word
    rw [Camera.checkRoi_inside hr' hx' hy']
    cases hgrid : st'.cam.grid with
    | none => exact .inl rfl
    | some g =>
      dsimp only
      cases hf : g.fitWord (Roi.fullFrame detectorSize) detectorSize with
      | error o => exact .inr ⟨hin, o, rfl⟩
      | ok r'' =>
        rw [(Grid.fitWord_ok_iff.1 hf).2,
          Grid.fit_fullFrame (Settings.validate_grid hs (hg ▸ hgrid))]
        exact .inl rfl
  · -- a region the grid fitted within words is fitted again to itself within words
    rw [Camera.checkRoi_inside hr' hx' hy']
    cases hgrid : st'.cam.grid with
    | none => exact .inl rfl
    | some g =>
      dsimp only
      rw [Grid.fitWord_fit_of_fits (Settings.validate_grid hs (hg ▸ hgrid))
        ((Roi.isActive_iff r).1 hr).1 (Camera.checkRoi_fits hr hx hy hgrid h)]
      exact .inl rfl

/-- On a grid of alignment 16 and minimum 32, a small region is fitted once and for all. -/
theorem checked_region_is_fixed_on_grid :
    let g : Grid := ⟨16, 32⟩
    let s : Settings := { Settings.default with roiConstraint := some g }
    let st : Station :=
      { (default : Station) with cam := { (default : Station).cam with grid := some g } }
    let r := Roi.make 10 20 100 4
    s.validate = .ok () ∧ st.cam.grid = s.roiConstraint ∧
    ∃ r', (Camera.checkRoi r).exec st = (.ok r', st) ∧
      (∀ (g : Grid) (r : Roi) (d : Size), g.fit (g.fit r d) d = g.fit r d) ∧
      ((Camera.checkRoi r').exec st = (.ok r', st) ∨
        r.isActive = false ∧ ∃ o, (Camera.checkRoi r').exec st = (.error (.overflow o), st)) := by
  dsimp only
  have hs : ({ Settings.default with roiConstraint := some ⟨16, 32⟩ } : Settings).validate =
      .ok () := by decide
  have hc := Camera.checkRoi_inside (r := Roi.make 10 20 100 4) rfl (by decide) (by decide)
    { (default : Station) with cam := { (default : Station).cam with grid := some ⟨16, 32⟩ } }
  exact ⟨hs, rfl, _, hc, checked_region_is_fixed _ _ _ _ _ hs rfl hc⟩

/-- Settings that pass their check with a grid of alignment 2 and the largest 32-bit minimum:
the check answers the full frame for an empty region, and checking the full frame overflows in
the rounding of the minimum. -/
theorem checked_full_frame_overflows :
    let g : Grid := ⟨2, 4294967295⟩
    let s : Settings := { Settings.default with roiConstraint := some g }
    let st : Station :=
      { (default : Station) with cam := { (default : Station).cam with grid := some g } }
    s.validate = .ok () ∧ st.cam.grid = s.roiConstraint ∧
    (Camera.checkRoi (Roi.make 0 0 0 0)).exec st = (.ok (Roi.fullFrame detectorSize), st) ∧
    (Camera.checkRoi (Roi.fullFrame detectorSize)).exec st = (.error (.overflow .mul), st) := by
  dsimp only
  refine ⟨by decide, rfl, Camera.checkRoi_inactive rfl _, ?_⟩
  rw [Camera.checkRoi_inside rfl (by decide) (by decide)]
  rfl

end CameraAcquisition
