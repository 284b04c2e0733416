import CameraAcquisition.Proofs.Camera.RegionCheck

/-!
# Which values a region check forms

The settings hold the grid's alignment and minimum size as 32-bit words, and the check accepts
any minimum and any power-of-two alignment. The camera fits a region on 32-bit words and stops
at the first sum or product that overflows; `Grid.fitSteps` lists the values it forms.

On the 2048 × 2048 detector, a region the camera's check fits to the grid lies inside the
detector, so every value formed from the region stays far below `2^32`. The one value that can
reach `2^32` is the minimum rounded up to the alignment: it stays below exactly when the minimum
is at least an alignment below `2^32`. So the check answers the fitted region exactly then, and
otherwise stops with the overflow of that product (`region_check_fits_word_iff`). The check of
settings does not bound the minimum, so with an alignment of 2 and the largest 32-bit minimum,
checking a 16 × 16 region overflows (`region_check_overflows_at_max_minimum`).

## What this module delivers

- `Grid.alignUp_lt_iff`: below an aligned bound, the round-up stays below it exactly when the
  value is an alignment below it.
- `Grid.alignUp_minSize_lt_word`, `Grid.fitSteps_lt_word_iff`.
- `region_check_fits_word_iff` with its instance `region_check_fits_word_iff_max_minimum`, and
  `region_check_overflows_at_max_minimum`.
-/

set_option autoImplicit false

namespace CameraAcquisition

namespace Grid

/-- Below an aligned bound, the round-up of `v` stays below it exactly when `v` is at least an
alignment below it. -/
theorem alignUp_lt_iff {v a m : Nat} (ha : 0 < a) (hm : a ∣ m) :
    alignUp v a < m ↔ v + a ≤ m := by
  constructor
  · intro h
    -- two multiples of `a` are at least `a` apart
    obtain ⟨k, hk⟩ := alignUp_dvd v a
    obtain ⟨j, rfl⟩ := hm
    have hkj : k < j := by
      rw [hk] at h
      exact Nat.lt_of_mul_lt_mul_left h
    have hv := alignUp_ge v a ha
    rw [hk] at hv
    have : a * k + a ≤ a * j := by
      rw [← Nat.mul_succ]
      exact Nat.mul_le_mul_left a hkj
    omega
  · intro h
    have hle : alignUp v a ≤ m - a :=
      alignUp_le_of_dvd ha (Nat.dvd_sub hm (Nat.dvd_refl a)) (by omega)
    omega

variable {g : Grid}

/-- The minimum rounded up to a usable 32-bit alignment stays below `2^32` exactly when the
minimum is at least an alignment below it. -/
theorem alignUp_minSize_lt_word (hv : g.isValid = true) (ha : g.alignment < wordSize) :
    alignUp g.minSize g.step < wordSize ↔ g.minSize + g.alignment ≤ wordSize := by
  obtain ⟨j, hj⟩ := (isValid_iff g).1 hv
  rw [alignUp_lt_iff (step_pos g) (step_dvd_word hv ha).1,
    step_eq (by rw [hj]; exact Nat.two_pow_pos j)]

variable {r : Roi} {d : Size}

/-- On a detector below `2^31` pixels on each side, fitting a region inside it forms values that
all fit a word exactly when the minimum is at least an alignment below `2^32`. -/
theorem fitSteps_lt_word_iff (hv : g.isValid = true) (ha : g.alignment < wordSize)
    (hx : r.topLeft.x + r.size.width ≤ d.width) (hy : r.topLeft.y + r.size.height ≤ d.height)
    (hdw : d.width < Nat.pow 2 31) (hdh : d.height < Nat.pow 2 31) :
    (∀ v ∈ g.fitSteps r d, v < wordSize) ↔ g.minSize + g.alignment ≤ wordSize := by
  rw [← alignUp_minSize_lt_word hv ha]
  constructor
  · -- the minimum's rounding is among the values formed
    exact fun h => h _ (List.mem_append_left _ (alignUp_minSize_mem_snapSteps ..))
  · intro hmin v hvm
    rcases fitSteps_lt_word hv ha hx hy hdw hdh v hvm with h | rfl
    · exact h
    · exact hmin

end Grid

/-- On a camera whose grid comes from settings that pass their check and whose alignment fits a
32-bit word, checking an active region inside the 2048 × 2048 detector fits it to the grid on
words. Every value the fit forms fits a word but the minimum size rounded up to the alignment;
the check answers the fitted region exactly when the minimum is at least an alignment below
`2^32`, and otherwise stops with the overflow of that product. -/
theorem region_check_fits_word_iff {s : Settings} {g : Grid} {st : Station} {r : Roi}
    (hs : s.validate = .ok ()) (hg : s.roiConstraint = some g) (ha : g.alignment < wordSize)
    (hgrid : st.cam.grid = some g) (hr : r.isActive = true)
    (hx : r.topLeft.x + r.size.width ≤ detectorSize.width)
    (hy : r.topLeft.y + r.size.height ≤ detectorSize.height) :
    (∀ v ∈ g.fitSteps r detectorSize, v < wordSize ∨ v = alignUp g.minSize g.step) ∧
    ((Camera.checkRoi r).exec st = (.ok (g.fit r detectorSize), st) ↔
      g.minSize + g.alignment ≤ wordSize) ∧
    (wordSize < g.minSize + g.alignment →
      (Camera.checkRoi r).exec st = (.error (.overflow .mul), st)) := by
  have hv := Settings.validate_grid hs hg
  have hdet : detectorSize.width < Nat.pow 2 31 := by decide
  rw [Camera.checkRoi_inside hr hx hy, hgrid]
  dsimp only
  refine ⟨Grid.fitSteps_lt_word hv ha hx hy hdet hdet, ?_, fun hover => ?_⟩
  · -- the check answers the fit exactly when every value of the fit fits a word
    rw [← Grid.fitSteps_lt_word_iff hv ha hx hy hdet hdet]
    constructor
    · intro h
      cases hf : g.fitWord r detectorSize with
      | error o => simp [hf, Except.mapError] at h
      | ok r' => exact (Grid.fitWord_ok_iff.1 hf).1
    · intro h
      rw [(Grid.fitWord_ok_iff.2 ⟨h, rfl⟩ :
        g.fitWord r detectorSize = .ok (g.fit r detectorSize))]
      rfl
  · -- the grown width and its rounding fit a word, and the minimum rounds up past every word
    obtain ⟨h1, h2⟩ := Grid.grown_lt_word (Grid.step_dvd_word hv ha).2 hx hdet
    have hmin : wordSize ≤ alignUp g.minSize g.step :=
      Nat.le_of_not_lt fun h => Nat.not_le_of_lt hover ((Grid.alignUp_minSize_lt_word hv ha).1 h)
    rw [Grid.fitWord_minSize_overflow h1 h2 hmin]
    rfl

/-- The largest minimum size on a grid of alignment 2: the check fits the region, and the
minimum rounded up is `2^32`. -/
theorem region_check_fits_word_iff_max_minimum :
    let g : Grid := ⟨2, 4294967295⟩
    let s : Settings := { Settings.default with roiConstraint := some g }
    let st : Station :=
      { (default : Station) with cam := { (default : Station).cam with grid := some g } }
    let r := Roi.make 0 0 16 16
    s.validate = .ok () ∧ s.roiConstraint = some g ∧ g.alignment < wordSize ∧
    st.cam.grid = some g ∧ r.isActive = true ∧
    r.topLeft.x + r.size.width ≤ detectorSize.width ∧
    r.topLeft.y + r.size.height ≤ detectorSize.height ∧
    ((∀ v ∈ g.fitSteps r detectorSize, v < wordSize ∨ v = alignUp g.minSize g.step) ∧
    ((Camera.checkRoi r).exec st = (.ok (g.fit r detectorSize), st) ↔
      g.minSize + g.alignment ≤ wordSize) ∧
    (wordSize < g.minSize + g.alignment →
      (Camera.checkRoi r).exec st = (.error (.overflow .mul), st))) :=
  have hs : ({ Settings.default with roiConstraint := some ⟨2, 4294967295⟩ } :
      Settings).validate = .ok () := by decide
  ⟨hs, rfl, by decide, rfl, rfl, by decide, by decide,
    region_check_fits_word_iff hs rfl (by decide) rfl rfl (by decide) (by decide)⟩

/-- Settings that pass their check with a grid of alignment 2 and the largest 32-bit minimum:
checking a 16 × 16 region rounds the minimum up to `2^32`, past every 32-bit word, and the check
stops with the panic of that product. -/
theorem region_check_overflows_at_max_minimum :
    let g : Grid := ⟨2, 4294967295⟩
    let s : Settings := { Settings.default with roiConstraint := some g }
    let st : Station :=
      { (default : Station) with cam := { (default : Station).cam with grid := some g } }
    let r := Roi.make 0 0 16 16
    s.validate = .ok () ∧ st.cam.grid = s.roiConstraint ∧
    (Camera.checkRoi r).exec st = (.error (.overflow .mul), st) ∧
    Overflow.mul.message = "attempt to multiply with overflow" := by
  dsimp only
  refine ⟨by decide, rfl, ?_, rfl⟩
  rw [Camera.checkRoi_inside rfl (by decide) (by decide)]
  rfl

end CameraAcquisition
