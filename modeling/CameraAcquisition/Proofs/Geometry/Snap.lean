import CameraAcquisition.Geometry.Grid
import Mathlib.Order.Bounds.Basic

/-!
# Where a grid puts a window

`Grid.snap` grows the window `[origin, origin + len)` of an axis onto the grid. It rounds the
origin down and takes the least aligned size that holds the window from there and is at least
the minimum (`Grid.need`). It then leaves in one of three ways:

* the size fits the detector: the window of that size stays at the rounded-down origin, or is
  moved back to the largest aligned origin that keeps it inside (`Grid.place`);
* it does not fit: the largest aligned size inside the detector (`Grid.clamp`) is placed the
  same way;
* no aligned size of at least the minimum is inside the detector (`Grid.Narrow`): the whole
  axis is returned.

So every answer is an aligned window of at least the minimum size inside the detector, or the
whole axis of a detector too narrow for the grid (`snap_shape`). The bounds on the answer and
the fact that a second snap changes nothing follow from that alone.

Whether the answer holds the request is another matter. When some aligned window of the least
size holds it inside the detector, the answer is such a window (`snap_answers`). When none
does, the whole axis comes back on a detector that is a multiple of the alignment, as the
2048-pixel sensor is for every power of two up to 2048; on other detectors the clamp answers
a narrower aligned window instead (`clamp_narrows_request`).

The camera snaps on 32-bit words. Its snap forms the values `Grid.snapSteps` lists and answers
exactly when none of them overflows, and then it answers the snap (`snapWord_ok_iff`,
`fitWord_ok_iff`).

## What this module delivers

- `alignUp_le_of_dvd`, `alignUp_of_dvd`, `le_div_mul_of_dvd`: rounding to a multiple.
- `Grid.start`, `Grid.need`, `Grid.clamp`, `Grid.place`, `Grid.Narrow`, with the three exits
  `snap_of_le`, `snap_of_clamp`, `snap_of_narrow`.
- `Grid.Settled`, `snap_shape`, `snap_settled`, `snap_whole_axis`.
- `snap_inside`, `min_le_snap`, `snap_pos`, `snap_snap`, `fit_eq`, `fit_fit`.
- `addWord_eq`, `alignUpWord_eq`, `snapWord_ok_iff`, `snapWord_error`,
  `snapWord_minSize_overflow`, `fitWord_ok_iff`, `fitWord_minSize_overflow`.
- `alignUp_lt_add`, `step_dvd_word`, `snapSteps_eq`, `grown_lt_word`, `snapSteps_lt_word`,
  `alignUp_minSize_mem_snapSteps`, `fitSteps_lt_word`: on the sensor, every value a fit forms
  fits a word but the rounded minimum.
- `Grid.Answers`, `snap_answers`, `fit_holds_request` and its case on the sensor;
  `clamp_narrows_request`.
-/

set_option autoImplicit false

namespace CameraAcquisition

namespace Grid

/-! ## Rounding to a multiple -/

/-- An aligned bound of `v` bounds its rounding up: `alignUp` is the least multiple above. -/
theorem alignUp_le_of_dvd {v a m : Nat} (ha : 0 < a) (hm : a ∣ m) (hv : v ≤ m) :
    alignUp v a ≤ m := by
  obtain ⟨k, rfl⟩ := hm
  have hq : (v + a - 1) / a < k + 1 := by
    rw [Nat.div_lt_iff_lt_mul ha, Nat.add_mul, Nat.one_mul, Nat.mul_comm k a]
    omega
  calc alignUp v a = (v + a - 1) / a * a := rfl
    _ ≤ k * a := Nat.mul_le_mul_right a (by omega)
    _ = a * k := Nat.mul_comm k a

theorem alignUp_of_dvd {v a : Nat} (ha : 0 < a) (hv : a ∣ v) : alignUp v a = v :=
  Nat.le_antisymm (alignUp_le_of_dvd ha hv (Nat.le_refl v)) (alignUp_ge v a ha)

/-- An aligned value below `m` stays below `m` rounded down. -/
theorem le_div_mul_of_dvd {y m a : Nat} (hy : a ∣ y) (h : y ≤ m) : y ≤ m / a * a :=
  calc y = y / a * a := (Nat.div_mul_cancel hy).symm
    _ ≤ m / a * a := Nat.mul_le_mul_right a (Nat.div_le_div_right h)

/-! ## The parts of a snap -/

/-- The origin rounded down to the grid. -/
def start (g : Grid) (origin : Nat) : Nat := origin / g.step * g.step

/-- The least aligned size that holds a window from its rounded-down origin and is at least the
minimum. -/
def need (g : Grid) (origin len : Nat) : Nat :=
  max (alignUp (len + (origin - g.start origin)) g.step) (alignUp g.minSize g.step)

/-- The largest aligned size inside the detector. -/
def clamp (g : Grid) (detector : Nat) : Nat := detector / g.step * g.step

/-- The window of `size` at `start`, moved back to the largest aligned origin that keeps it
inside the detector when it reaches past the far edge. -/
def place (g : Grid) (start size detector : Nat) : Nat × Nat :=
  if start + size > detector then ((detector - size) / g.step * g.step, size) else (start, size)

/-- A detector too narrow for the grid: no aligned size of at least the minimum lies inside it. -/
def Narrow (g : Grid) (detector : Nat) : Prop :=
  g.clamp detector < g.minSize ∨ g.clamp detector = 0

variable {g : Grid} {origin len detector : Nat}

theorem snap_of_le (h : g.need origin len ≤ detector) :
    g.snap origin len detector = g.place (g.start origin) (g.need origin len) detector := by
  have h' : ¬g.need origin len > detector := Nat.not_lt.2 h
  unfold snap
  exact if_neg h'

theorem snap_of_narrow (h : detector < g.need origin len) (hn : g.Narrow detector) :
    g.snap origin len detector = (0, detector) := by
  have hn' : g.clamp detector < g.minSize ∨ g.clamp detector = 0 := hn
  unfold snap
  exact (if_pos h).trans (if_pos hn')

theorem snap_of_clamp (h : detector < g.need origin len) (hn : ¬g.Narrow detector) :
    g.snap origin len detector = g.place (g.start origin) (g.clamp detector) detector := by
  have hn' : ¬(g.clamp detector < g.minSize ∨ g.clamp detector = 0) := hn
  unfold snap
  exact (if_pos h).trans (if_neg hn')

theorem step_eq (ha : 0 < g.alignment) : g.step = g.alignment := Nat.max_eq_left ha

theorem start_le (g : Grid) (origin : Nat) : g.start origin ≤ origin := Nat.div_mul_le_self _ _

theorem step_dvd_start (g : Grid) (origin : Nat) : g.step ∣ g.start origin :=
  Nat.dvd_mul_left _ _

theorem step_dvd_need (g : Grid) (origin len : Nat) : g.step ∣ g.need origin len := by
  unfold need
  rcases Nat.le_total (alignUp (len + (origin - g.start origin)) g.step)
    (alignUp g.minSize g.step) with h | h
  · rw [Nat.max_eq_right h]; exact alignUp_dvd _ _
  · rw [Nat.max_eq_left h]; exact alignUp_dvd _ _

theorem minSize_le_need (g : Grid) (origin len : Nat) : g.minSize ≤ g.need origin len :=
  Nat.le_trans (alignUp_ge _ _ g.step_pos) (Nat.le_max_right _ _)

theorem grown_le_need (g : Grid) (origin len : Nat) :
    len + (origin - g.start origin) ≤ g.need origin len :=
  Nat.le_trans (alignUp_ge _ _ g.step_pos) (Nat.le_max_left _ _)

/-- The need is the least aligned size that holds the grown window and the minimum. -/
theorem need_le {m : Nat} (hm : g.step ∣ m) (hmin : g.minSize ≤ m)
    (hgrown : len + (origin - g.start origin) ≤ m) : g.need origin len ≤ m :=
  Nat.max_le.2 ⟨alignUp_le_of_dvd g.step_pos hm hgrown, alignUp_le_of_dvd g.step_pos hm hmin⟩

theorem clamp_le (g : Grid) (detector : Nat) : g.clamp detector ≤ detector :=
  Nat.div_mul_le_self _ _

theorem step_dvd_clamp (g : Grid) (detector : Nat) : g.step ∣ g.clamp detector :=
  Nat.dvd_mul_left _ _

/-- Every aligned size inside the detector is at most the clamp. -/
theorem le_clamp {m : Nat} (hm : g.step ∣ m) (h : m ≤ detector) : m ≤ g.clamp detector :=
  le_div_mul_of_dvd hm h

/-! ## Placing a window -/

section Place

variable {s size y : Nat}

@[simp] theorem place_snd (g : Grid) (s size detector : Nat) :
    (g.place s size detector).2 = size := by
  unfold place
  split <;> rfl

theorem place_le (g : Grid) (s size detector : Nat) : (g.place s size detector).1 ≤ s := by
  unfold place
  split
  · -- moved back: below the room before the far edge, which is below `s`
    have := Nat.div_mul_le_self (detector - size) g.step
    dsimp only
    omega
  · exact Nat.le_refl s

theorem place_inside (h : size ≤ detector) : (g.place s size detector).1 + size ≤ detector := by
  unfold place
  split
  · have := Nat.div_mul_le_self (detector - size) g.step
    dsimp only
    omega
  · dsimp only
    omega

theorem step_dvd_place (hs : g.step ∣ s) : g.step ∣ (g.place s size detector).1 := by
  unfold place
  split
  · exact Nat.dvd_mul_left _ _
  · exact hs

/-- Moving a window back keeps it right of every aligned window of its size that lies inside
the detector and starts at or before it. -/
theorem le_place (hy : g.step ∣ y) (hys : y ≤ s) (hyd : y + size ≤ detector) :
    y ≤ (g.place s size detector).1 := by
  unfold place
  split
  · exact le_div_mul_of_dvd hy (by omega)
  · exact hys

end Place

/-! ## What a snap answers -/

/-- A window the grid keeps: aligned origin and size, at least the minimum size, inside the
detector. -/
structure Settled (g : Grid) (detector : Nat) (w : Nat × Nat) : Prop where
  origin_dvd : g.step ∣ w.1
  size_dvd : g.step ∣ w.2
  minSize_le : g.minSize ≤ w.2
  inside : w.1 + w.2 ≤ detector

theorem settled_place {s size : Nat} (hs : g.step ∣ s) (hd : g.step ∣ size)
    (hm : g.minSize ≤ size) (h : size ≤ detector) : g.Settled detector (g.place s size detector) where
  origin_dvd := step_dvd_place hs
  size_dvd := by rw [place_snd]; exact hd
  minSize_le := by rw [place_snd]; exact hm
  inside := by rw [place_snd]; exact place_inside h

/-- Every answer of a snap is a window the grid keeps, or the whole axis of a detector too
narrow for the grid. -/
theorem snap_shape (g : Grid) (origin len detector : Nat) :
    g.Settled detector (g.snap origin len detector) ∨
      (g.Narrow detector ∧ g.snap origin len detector = (0, detector)) := by
  rcases Nat.lt_or_ge detector (g.need origin len) with hlt | hle
  · by_cases hn : g.Narrow detector
    · exact .inr ⟨hn, snap_of_narrow hlt hn⟩
    · -- the clamp is aligned, inside the detector, and not below the minimum
      have hmin : g.minSize ≤ g.clamp detector := Nat.not_lt.1 fun h => hn (.inl h)
      rw [snap_of_clamp hlt hn]
      exact .inl (settled_place (g.step_dvd_start origin) (g.step_dvd_clamp detector) hmin
        (g.clamp_le detector))
  · rw [snap_of_le hle]
    exact .inl (settled_place (g.step_dvd_start origin) (g.step_dvd_need origin len)
      (g.minSize_le_need origin len) hle)

/-- A window the grid keeps is its own snap. -/
theorem snap_settled {x w : Nat} (h : g.Settled detector (x, w)) : g.snap x w detector = (x, w) := by
  have hx : g.start x = x := Nat.div_mul_cancel h.origin_dvd
  -- the need of a kept window is its own size
  have hneed : g.need x w = w := by
    refine Nat.le_antisymm (need_le h.size_dvd h.minSize_le (by rw [hx]; omega)) ?_
    have := g.grown_le_need x w
    omega
  have hin : x + w ≤ detector := h.inside
  rw [snap_of_le (by omega), hneed, hx]
  unfold place
  rw [if_neg (by omega)]

/-- The whole axis of a detector too narrow for the grid is its own snap. -/
theorem snap_whole_axis (hn : g.Narrow detector) : g.snap 0 detector detector = (0, detector) := by
  rcases Nat.lt_or_ge detector (g.need 0 detector) with hlt | hge
  · exact snap_of_narrow hlt hn
  · -- an aligned size inside the detector is at most the clamp, so the need can only be zero,
    -- and then so is the detector
    have hc := le_clamp (g.step_dvd_need 0 detector) hge
    have hmin := g.minSize_le_need 0 detector
    have hgrown := g.grown_le_need 0 detector
    have hz : g.need 0 detector = 0 := by rcases hn with h | h <;> omega
    have hd : detector = 0 := by omega
    have h0 : g.start 0 = 0 := by simp [start]
    rw [snap_of_le hge, hz, h0, hd]
    simp [place]

/-- Snapping a snapped window changes nothing. -/
theorem snap_snap (g : Grid) (origin len detector : Nat) :
    g.snap (g.snap origin len detector).1 (g.snap origin len detector).2 detector =
      g.snap origin len detector := by
  rcases snap_shape g origin len detector with hs | ⟨hn, he⟩
  · exact snap_settled hs
  · rw [he]
    exact snap_whole_axis hn

/-- The whole axis of a detector whose side the step divides, or is too short for, is its own
snap. -/
theorem snap_full_axis (h : g.step ∣ detector ∨ detector < g.step) :
    g.snap 0 detector detector = (0, detector) := by
  by_cases hn : g.Narrow detector
  · exact snap_whole_axis hn
  · rcases h with hd | hlt
    · -- the clamp is the whole side, so the minimum fits and the axis is a kept window
      have hc : g.clamp detector = detector := Nat.div_mul_cancel hd
      have hmin : g.minSize ≤ detector := Nat.not_lt.1 fun h' => hn (.inl (by rw [hc]; exact h'))
      exact snap_settled ⟨Nat.dvd_zero _, hd, hmin, by simp⟩
    · have hc : g.clamp detector = 0 := by simp [clamp, Nat.div_eq_of_lt hlt]
      exact absurd (.inr hc) hn

/-! ## Bounds of the answer -/

theorem snap_inside (g : Grid) (origin len detector : Nat) :
    (g.snap origin len detector).1 + (g.snap origin len detector).2 ≤ detector := by
  rcases snap_shape g origin len detector with hs | ⟨-, he⟩
  · exact hs.inside
  · rw [he]; simp

theorem min_le_snap (g : Grid) (origin len detector : Nat) :
    min g.minSize detector ≤ (g.snap origin len detector).2 := by
  rcases snap_shape g origin len detector with hs | ⟨-, he⟩
  · exact Nat.le_trans (Nat.min_le_left _ _) hs.minSize_le
  · rw [he]; exact Nat.min_le_right _ _

/-- A non-empty request on a non-empty axis gets a non-empty window. -/
theorem snap_pos (hl : 0 < len) (hd : 0 < detector) : 0 < (g.snap origin len detector).2 := by
  rcases Nat.lt_or_ge detector (g.need origin len) with hlt | hle
  · by_cases hn : g.Narrow detector
    · rw [snap_of_narrow hlt hn]; exact hd
    · rw [snap_of_clamp hlt hn, place_snd]
      exact Nat.pos_of_ne_zero fun h => hn (.inr h)
  · rw [snap_of_le hle, place_snd]
    have := g.grown_le_need origin len
    omega

/-! ## Both axes -/

theorem fit_eq (g : Grid) (r : Roi) (d : Size) :
    g.fit r d = Roi.make (g.snap r.topLeft.x r.size.width d.width).1
      (g.snap r.topLeft.y r.size.height d.height).1 (g.snap r.topLeft.x r.size.width d.width).2
      (g.snap r.topLeft.y r.size.height d.height).2 := rfl

/-- Fitting a fitted region changes nothing. -/
theorem fit_fit (g : Grid) (r : Roi) (d : Size) : g.fit (g.fit r d) d = g.fit r d := by
  rw [fit_eq g (g.fit r d), fit_eq g r]
  simp only [Roi.make, snap_snap]

/-! ## Usable grids -/

/-- A grid is usable exactly when its alignment is a power of two. -/
theorem isValid_iff (g : Grid) : g.isValid = true ↔ g.alignment.isPowerOfTwo := by
  simp only [isValid, isPowerOfTwo, Bool.and_eq_true, bne_iff_ne, ne_eq, beq_iff_eq]
  exact Nat.ne_zero_and_sub_one_eq_zero_iff_isPowerOfTwo

/-- A usable grid's step divides a side of 2048 pixels, or is longer than it. -/
theorem step_dvd_or_gt_of_isValid (hv : g.isValid = true) : g.step ∣ 2048 ∨ 2048 < g.step := by
  obtain ⟨j, hj⟩ := (isValid_iff g).1 hv
  have hstep : g.step = Nat.pow 2 j := by
    rw [step_eq (by rw [hj]; exact Nat.two_pow_pos j), hj]
    rfl
  have h2048 : (2048 : Nat) = Nat.pow 2 11 := rfl
  rw [hstep, h2048]
  rcases Nat.lt_or_ge 11 j with h | h
  · exact .inr (Nat.pow_lt_pow_right (by decide) h)
  · exact .inl (Nat.pow_dvd_pow 2 h)

/-! ## Snapping on words -/

end Grid

/-- A sum on words is the sum when it fits, and an overflow of the addition otherwise. -/
theorem addWord_eq (a b : Nat) :
    addWord a b = if a + b < wordSize then .ok (a + b) else .error .add := rfl

/-- Rounding up on words is the rounding up when it fits, and an overflow of the product
otherwise: the quotient rounded up always fits. -/
theorem alignUpWord_eq (v a : Nat) :
    alignUpWord v a = if alignUp v a < wordSize then .ok (alignUp v a) else .error .mul := rfl

namespace Grid

variable {g : Grid} {origin len detector : Nat}

/-- The snap on words answers exactly when every value it forms fits a word, and then it answers
the snap. -/
theorem snapWord_ok_iff {w : Nat × Nat} :
    g.snapWord origin len detector = .ok w ↔
      (∀ v ∈ g.snapSteps origin len detector, v < wordSize) ∧ w = g.snap origin len detector := by
  unfold snapWord snapSteps snap
  simp only [addWord_eq, alignUpWord_eq]
  -- the grown length and the two roundings are formed on every path, in this order
  by_cases h1 : len + (origin - origin / g.step * g.step) < wordSize
  · by_cases h2 : alignUp (len + (origin - origin / g.step * g.step)) g.step < wordSize
    · by_cases h3 : alignUp g.minSize g.step < wordSize
      · -- then the far end is formed on the paths that check it
        simp only [if_pos h1, if_pos h2, if_pos h3, bind, Except.bind, pure, Except.pure]
        split_ifs <;> simp [*, eq_comm]
      · simp [h1, h2, h3, bind, Except.bind]
    · simp [h1, h2, bind, Except.bind]
  · simp [h1, bind, Except.bind]

theorem snapWord_of_fits (h : ∀ v ∈ g.snapSteps origin len detector, v < wordSize) :
    g.snapWord origin len detector = .ok (g.snap origin len detector) :=
  snapWord_ok_iff.2 ⟨h, rfl⟩

theorem snapWord_error (h : ¬∀ v ∈ g.snapSteps origin len detector, v < wordSize) :
    ∃ o, g.snapWord origin len detector = .error o := by
  cases hw : g.snapWord origin len detector with
  | error o => exact ⟨o, rfl⟩
  | ok w => exact absurd (snapWord_ok_iff.1 hw).1 h

/-- A snap whose grown length and its rounding fit a word, but whose minimum rounds up past
every word, overflows in that product. -/
theorem snapWord_minSize_overflow (h1 : len + (origin - g.start origin) < wordSize)
    (h2 : alignUp (len + (origin - g.start origin)) g.step < wordSize)
    (h3 : wordSize ≤ alignUp g.minSize g.step) : g.snapWord origin len detector = .error .mul := by
  unfold start at h1 h2
  unfold snapWord
  simp [addWord_eq, alignUpWord_eq, h1, h2, Nat.not_lt.2 h3, bind, Except.bind]

/-- The fit on words answers exactly when every value it forms on both axes fits a word, and then
it answers the fit. -/
theorem fitWord_ok_iff {r r' : Roi} {d : Size} :
    g.fitWord r d = .ok r' ↔ (∀ v ∈ g.fitSteps r d, v < wordSize) ∧ r' = g.fit r d := by
  rw [fitSteps, List.forall_mem_append]
  unfold fitWord
  by_cases hx : ∀ v ∈ g.snapSteps r.topLeft.x r.size.width d.width, v < wordSize
  · rw [snapWord_of_fits hx]
    by_cases hy : ∀ v ∈ g.snapSteps r.topLeft.y r.size.height d.height, v < wordSize
    · rw [snapWord_of_fits hy]
      simp only [fit_eq, bind, Except.bind, pure, Except.pure, Except.ok.injEq]
      exact ⟨fun h => ⟨⟨hx, hy⟩, h.symm⟩, fun h => h.2.symm⟩
    · obtain ⟨o, ho⟩ := snapWord_error hy
      rw [ho]
      simp [hy, bind, Except.bind]
  · obtain ⟨o, ho⟩ := snapWord_error hx
    rw [ho]
    simp [hx, bind, Except.bind]

/-- A fit whose first axis overflows in the rounding of the minimum stops there. -/
theorem fitWord_minSize_overflow {r : Roi} {d : Size}
    (h1 : r.size.width + (r.topLeft.x - g.start r.topLeft.x) < wordSize)
    (h2 : alignUp (r.size.width + (r.topLeft.x - g.start r.topLeft.x)) g.step < wordSize)
    (h3 : wordSize ≤ alignUp g.minSize g.step) : g.fitWord r d = .error .mul := by
  unfold fitWord
  rw [snapWord_minSize_overflow h1 h2 h3]
  rfl

/-- The round-up of `v` goes past `v` by less than the alignment. -/
theorem alignUp_lt_add {v a : Nat} (ha : 0 < a) : alignUp v a < v + a := by
  have h := Nat.div_mul_le_self (v + a - 1) a
  unfold alignUp
  omega

/-- A usable grid whose alignment fits a word steps by a power of two that divides the word
size and is at most `2^31`. -/
theorem step_dvd_word (hv : g.isValid = true) (ha : g.alignment < wordSize) :
    g.step ∣ wordSize ∧ g.step ≤ Nat.pow 2 31 := by
  obtain ⟨j, hj⟩ := (isValid_iff g).1 hv
  have hstep : g.step = Nat.pow 2 j := by
    rw [step_eq (by rw [hj]; exact Nat.two_pow_pos j), hj]
    rfl
  have hlt : 2 ^ j < 2 ^ 32 := hj ▸ ha
  have hj32 : j < 32 := (Nat.pow_lt_pow_iff_right (by decide)).1 hlt
  rw [hstep]
  exact ⟨Nat.pow_dvd_pow 2 (Nat.le_of_lt hj32), Nat.pow_le_pow_right (by decide) (by omega)⟩

theorem snapSteps_eq (g : Grid) (origin len detector : Nat) :
    g.snapSteps origin len detector =
      [len + (origin - g.start origin), alignUp (len + (origin - g.start origin)) g.step,
        alignUp g.minSize g.step] ++
      if g.need origin len > detector then
        if g.clamp detector < g.minSize ∨ g.clamp detector = 0 then []
        else [g.start origin + g.clamp detector]
      else [g.start origin + g.need origin len] := rfl

/-- Inside a detector below `2^31` pixels, the grown length and its rounding to a step of at most
`2^31` fit a word. -/
theorem grown_lt_word (hle : g.step ≤ Nat.pow 2 31) (hin : origin + len ≤ detector)
    (hd : detector < Nat.pow 2 31) :
    len + (origin - g.start origin) < wordSize ∧
      alignUp (len + (origin - g.start origin)) g.step < wordSize := by
  have hw32 : wordSize = 4294967296 := rfl
  have hw31 : Nat.pow 2 31 = 2147483648 := rfl
  have hgrown : len + (origin - g.start origin) ≤ detector := by
    have := start_le g origin
    omega
  have hround := @alignUp_lt_add (len + (origin - g.start origin)) g.step (step_pos g)
  omega

/-- On a detector below `2^31` pixels, a usable grid of an alignment that fits a word snaps a
window inside the detector forming values that fit a word, but for the rounding up of the
minimum size. -/
theorem snapSteps_lt_word (hv : g.isValid = true) (ha : g.alignment < wordSize)
    (hin : origin + len ≤ detector) (hd : detector < Nat.pow 2 31) :
    ∀ v ∈ g.snapSteps origin len detector, v < wordSize ∨ v = alignUp g.minSize g.step := by
  have hw32 : wordSize = 4294967296 := rfl
  have hw31 : Nat.pow 2 31 = 2147483648 := rfl
  obtain ⟨hgrown, hround⟩ := grown_lt_word (step_dvd_word hv ha).2 hin hd
  -- the far end checked is at most the rounded-down origin plus the detector
  have hfar : ∀ v ∈ (if g.need origin len > detector then
      if g.clamp detector < g.minSize ∨ g.clamp detector = 0 then []
      else [g.start origin + g.clamp detector]
      else [g.start origin + g.need origin len]), v ≤ g.start origin + detector := by
    have := clamp_le g detector
    split_ifs with h₁ <;> simp <;> omega
  have hend := start_le g origin
  intro v hv
  rw [snapSteps_eq, List.mem_append] at hv
  rcases hv with hv | hv
  · simp only [List.mem_cons, List.not_mem_nil, or_false] at hv
    rcases hv with rfl | rfl | rfl
    · exact .inl hgrown
    · exact .inl hround
    · exact .inr rfl
  · exact .inl (by have := hfar v hv; omega)

theorem alignUp_minSize_mem_snapSteps (g : Grid) (origin len detector : Nat) :
    alignUp g.minSize g.step ∈ g.snapSteps origin len detector := by
  rw [snapSteps_eq]
  simp

/-- On a detector below `2^31` pixels on each side, fitting a region inside it forms values that
fit a word, but for the rounding up of the minimum size. -/
theorem fitSteps_lt_word {r : Roi} {d : Size} (hv : g.isValid = true)
    (ha : g.alignment < wordSize) (hx : r.topLeft.x + r.size.width ≤ d.width)
    (hy : r.topLeft.y + r.size.height ≤ d.height)
    (hdw : d.width < Nat.pow 2 31) (hdh : d.height < Nat.pow 2 31) :
    ∀ v ∈ g.fitSteps r d, v < wordSize ∨ v = alignUp g.minSize g.step := by
  intro v hvm
  rcases List.mem_append.1 hvm with h | h
  · exact snapSteps_lt_word hv ha hx hdw v h
  · exact snapSteps_lt_word hv ha hy hdh v h

/-! ## Holding the request -/

/-- The window `w` answers the request `[origin, origin + len)` on an axis of `detector`
pixels: its origin is aligned, it holds the request and lies inside the detector, and its size
is the least aligned size that holds the request from the request's rounded-down origin and is
at least the minimum. -/
def Answers (g : Grid) (origin len detector : Nat) (w : Nat × Nat) : Prop :=
  g.alignment ∣ w.1 ∧ w.1 ≤ origin ∧ origin + len ≤ w.1 + w.2 ∧ w.1 + w.2 ≤ detector ∧
    IsLeast {m | g.alignment ∣ m ∧ g.minSize ≤ m ∧
      origin + len - origin / g.alignment * g.alignment ≤ m} w.2

/-- The need is the size every answer has. -/
theorem isLeast_need (ha : 0 < g.alignment) :
    IsLeast {m | g.alignment ∣ m ∧ g.minSize ≤ m ∧
      origin + len - origin / g.alignment * g.alignment ≤ m} (g.need origin len) := by
  have hs : origin / g.alignment * g.alignment = g.start origin := by rw [start, step_eq ha]
  have hle := g.start_le origin
  rw [hs]
  refine ⟨⟨step_eq ha ▸ g.step_dvd_need origin len, g.minSize_le_need origin len, ?_⟩, ?_⟩
  · have := g.grown_le_need origin len
    omega
  · rintro m ⟨hd, hmin, hgrown⟩
    exact need_le (by rw [step_eq ha]; exact hd) hmin (by omega)

/-- The snap answers the request once the need fits and, placed, reaches the request's far end. -/
theorem answers_snap (ha : 0 < g.alignment) (h : g.need origin len ≤ detector)
    (hcov : origin + len ≤
      (g.place (g.start origin) (g.need origin len) detector).1 + g.need origin len) :
    g.Answers origin len detector (g.snap origin len detector) := by
  rw [snap_of_le h]
  refine ⟨step_eq ha ▸ step_dvd_place (g.step_dvd_start origin),
    Nat.le_trans (place_le ..) (g.start_le origin), ?_, ?_, ?_⟩
  · rw [place_snd]; exact hcov
  · rw [place_snd]; exact place_inside h
  · rw [place_snd]; exact isLeast_need ha

/-- When some window answers a request, the snap answers it too. When none does, a request
inside a detector that is a multiple of the alignment gets the whole axis. -/
theorem snap_answers (ha : 0 < g.alignment) :
    ((∃ w, g.Answers origin len detector w) →
      g.Answers origin len detector (g.snap origin len detector)) ∧
    (origin + len ≤ detector → g.alignment ∣ detector →
      (¬∃ w, g.Answers origin len detector w) → g.snap origin len detector = (0, detector)) := by
  have hstep := step_eq ha
  constructor
  · rintro ⟨w, hd, hle, hcov, hin, hleast⟩
    -- an answer has the need for its size, and the snap is placed no further left than it
    have hw : w.2 = g.need origin len := hleast.unique (isLeast_need ha)
    rw [hw] at hcov hin
    have hy : w.1 ≤ g.start origin := by
      rw [start, hstep]
      exact le_div_mul_of_dvd hd hle
    have := le_place (by rw [hstep]; exact hd) hy hin
    exact answers_snap ha (by omega) (by omega)
  · intro hin hdvd hnone
    have hgrown : len + (origin - g.start origin) ≤ detector := by
      have := g.start_le origin
      omega
    -- the placed need would hold the request: it stays at the rounded-down origin, or is moved
    -- back flush with the far edge, which is aligned; so the need does not fit
    have hlt : detector < g.need origin len := by
      refine Nat.lt_of_not_le fun hle => hnone ⟨_, answers_snap ha hle ?_⟩
      unfold place
      split
      · have hd : g.alignment ∣ detector - g.need origin len :=
          Nat.dvd_sub hdvd (hstep ▸ g.step_dvd_need origin len)
        dsimp only
        rw [hstep, Nat.div_mul_cancel hd]
        omega
      · have := g.grown_le_need origin len
        dsimp only
        omega
    -- the grown request fits, so it is the minimum that does not, and the detector is narrow
    have hfit : alignUp (len + (origin - g.start origin)) g.step ≤ detector :=
      alignUp_le_of_dvd g.step_pos (by rw [hstep]; exact hdvd) hgrown
    have hmin : detector < alignUp g.minSize g.step := by
      unfold need at hlt
      omega
    have hclamp : g.clamp detector = detector := by
      rw [clamp, hstep]
      exact Nat.div_mul_cancel hdvd
    refine snap_of_narrow hlt (.inl ?_)
    rw [hclamp]
    exact Nat.lt_of_not_le fun h =>
      Nat.not_le_of_lt hmin (alignUp_le_of_dvd g.step_pos (by rw [hstep]; exact hdvd) h)

/-- The fit on words answers a region exactly when none of the values it forms overflows a
word, and the region it answers is the fit. On each axis of a region inside the detector,
the fit answers the request whenever some window does. When none does and the detector's side is
a multiple of the alignment, the whole axis is taken. -/
theorem fit_holds_request (g : Grid) (r : Roi) (d : Size) (ha : 0 < g.alignment)
    (hx : r.topLeft.x + r.size.width ≤ d.width) (hy : r.topLeft.y + r.size.height ≤ d.height) :
    (∀ r', g.fitWord r d = .ok r' ↔ (∀ v ∈ g.fitSteps r d, v < wordSize) ∧ r' = g.fit r d) ∧
    ((∃ w, g.Answers r.topLeft.x r.size.width d.width w) →
      g.Answers r.topLeft.x r.size.width d.width ((g.fit r d).topLeft.x, (g.fit r d).size.width)) ∧
    (g.alignment ∣ d.width → (¬∃ w, g.Answers r.topLeft.x r.size.width d.width w) →
      (g.fit r d).topLeft.x = 0 ∧ (g.fit r d).size.width = d.width) ∧
    ((∃ w, g.Answers r.topLeft.y r.size.height d.height w) →
      g.Answers r.topLeft.y r.size.height d.height ((g.fit r d).topLeft.y, (g.fit r d).size.height)) ∧
    (g.alignment ∣ d.height → (¬∃ w, g.Answers r.topLeft.y r.size.height d.height w) →
      (g.fit r d).topLeft.y = 0 ∧ (g.fit r d).size.height = d.height) := by
  obtain ⟨hx₁, hx₂⟩ := @snap_answers g r.topLeft.x r.size.width d.width ha
  obtain ⟨hy₁, hy₂⟩ := @snap_answers g r.topLeft.y r.size.height d.height ha
  exact ⟨fun _ => fitWord_ok_iff, hx₁, fun hd hn => Prod.ext_iff.1 (hx₂ hx hd hn), hy₁,
    fun hd hn => Prod.ext_iff.1 (hy₂ hy hd hn)⟩

/-- On the 2048 × 2048 sensor with alignment 16 and minimum 32, a small region is answered on
both axes. -/
theorem fit_holds_request_sensor :
    let g : Grid := ⟨16, 32⟩
    let r := Roi.make 10 20 100 4
    let d : Size := ⟨2048, 2048⟩
    0 < g.alignment ∧ r.topLeft.x + r.size.width ≤ d.width ∧
    r.topLeft.y + r.size.height ≤ d.height ∧
    (∀ r', g.fitWord r d = .ok r' ↔ (∀ v ∈ g.fitSteps r d, v < wordSize) ∧ r' = g.fit r d) ∧
    ((∃ w, g.Answers r.topLeft.x r.size.width d.width w) →
      g.Answers r.topLeft.x r.size.width d.width ((g.fit r d).topLeft.x, (g.fit r d).size.width)) ∧
    (g.alignment ∣ d.width → (¬∃ w, g.Answers r.topLeft.x r.size.width d.width w) →
      (g.fit r d).topLeft.x = 0 ∧ (g.fit r d).size.width = d.width) ∧
    ((∃ w, g.Answers r.topLeft.y r.size.height d.height w) →
      g.Answers r.topLeft.y r.size.height d.height ((g.fit r d).topLeft.y, (g.fit r d).size.height)) ∧
    (g.alignment ∣ d.height → (¬∃ w, g.Answers r.topLeft.y r.size.height d.height w) →
      (g.fit r d).topLeft.y = 0 ∧ (g.fit r d).size.height = d.height) :=
  ⟨by decide, by decide, by decide,
    fit_holds_request ⟨16, 32⟩ (Roi.make 10 20 100 4) ⟨2048, 2048⟩ (by decide) (by decide)
      (by decide)⟩

/-- A detector side that is not a multiple of the alignment: with alignment 32 and minimum 149,
no window answers the full width of a 300-pixel side, since the least size would be 320. Fitting
does not take the whole axis then, on words as exactly: it narrows the region to 288 pixels, the
largest aligned size inside the detector. -/
theorem clamp_narrows_request :
    let g : Grid := ⟨32, 149⟩
    g.isValid = true ∧ (¬∃ w, g.Answers 0 300 300 w) ∧
      g.fit (Roi.make 0 0 300 79) ⟨300, 100⟩ = Roi.make 0 0 288 100 ∧
      g.fitWord (Roi.make 0 0 300 79) ⟨300, 100⟩ = .ok (Roi.make 0 0 288 100) := by
  refine ⟨by decide, ?_, by decide, by rfl⟩
  rintro ⟨w, -, hle, hcov, hin, ⟨hdvd, -⟩, -⟩
  -- the window would be the whole side, which the alignment does not divide
  have hw : w.2 = 300 := by omega
  rw [hw] at hdvd
  exact absurd hdvd (by decide)

end Grid

end CameraAcquisition
