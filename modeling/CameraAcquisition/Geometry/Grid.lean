import CameraAcquisition.Geometry
import CameraAcquisition.Word

/-!
# Snapping a region onto an alignment grid

A camera may only read regions whose origin and size are multiples of an alignment and
whose sides are at least a minimum size. `Grid.fit` grows a requested region onto such a
grid: the origin is rounded down, the far corner up, the size to at least the minimum; a
region that then reaches past the detector is moved back inside it, and an axis on which
no aligned window of the minimum size fits becomes the whole axis.

The camera computes the snap on 32-bit words, where a sum or a product that does not fit stops
the program (`Word`). `Grid.snap` and `Grid.fit` compute it exactly; `Grid.snapWord` and
`Grid.fitWord` compute it as the camera does, and `Grid.snapSteps` lists the sums and products
that the camera forms on its way, so that `snapWord` answers `snap` exactly when they all fit.

## What this module delivers

- `alignUp`, the least multiple of an alignment not below a value, and `alignUpWord`.
- `Grid`, with `Grid.isValid` (the alignment is a power of two), `Grid.snap` on one axis
  and `Grid.fit` on a region.
- `Grid.snapWord`, `Grid.fitWord`, `Grid.snapSteps` and `Grid.fitSteps`.
-/

set_option autoImplicit false

namespace CameraAcquisition

/-- The least multiple of `a` that is at least `v` (for `a > 0`). -/
def alignUp (v a : Nat) : Nat := (v + a - 1) / a * a

/-- `alignUp` on words: the rounded-up quotient, which always fits, times `a`. -/
def alignUpWord (v a : Nat) : Except Overflow Nat := mulWord ((v + a - 1) / a) a

/-- Whether `n` is a power of two (zero is not). -/
def isPowerOfTwo (n : Nat) : Bool := n != 0 && (n &&& (n - 1)) == 0

/-- An alignment grid: origins and sizes are multiples of `alignment`, sizes are at least
`minSize`. -/
structure Grid where
  alignment : Nat
  minSize : Nat
  deriving Repr, BEq, DecidableEq

namespace Grid

/-- The grid that lets every region through. -/
def unit : Grid := ⟨1, 1⟩

/-- A grid is usable when its alignment is a power of two. -/
def isValid (g : Grid) : Bool := isPowerOfTwo g.alignment

/-- The alignment used for rounding; a zero alignment counts as one. -/
def step (g : Grid) : Nat := max g.alignment 1

/-- Snaps the window `[origin, origin + len)` of an axis of `detector` pixels: returns the
new origin and length. -/
def snap (g : Grid) (origin len detector : Nat) : Nat × Nat :=
  let a := g.step
  let start := origin / a * a
  let size := max (alignUp (len + (origin - start)) a) (alignUp g.minSize a)
  if size > detector then
    let clamped := detector / a * a
    if clamped < g.minSize ∨ clamped = 0 then (0, detector)
    else if start + clamped > detector then ((detector - clamped) / a * a, clamped)
    else (start, clamped)
  else if start + size > detector then ((detector - size) / a * a, size)
  else (start, size)

/-- `snap` on words: the same steps, each sum and product checked. -/
def snapWord (g : Grid) (origin len detector : Nat) : Except Overflow (Nat × Nat) := do
  let a := g.step
  let start := origin / a * a
  let grown ← addWord len (origin - start)
  let size := max (← alignUpWord grown a) (← alignUpWord g.minSize a)
  if size > detector then
    let clamped := detector / a * a
    if clamped < g.minSize ∨ clamped = 0 then return (0, detector)
    else if (← addWord start clamped) > detector then
      return ((detector - clamped) / a * a, clamped)
    else return (start, clamped)
  else if (← addWord start size) > detector then return ((detector - size) / a * a, size)
  else return (start, size)

/-- The sums and products that `snapWord` forms, in the order it forms them: the grown length,
the two rounded lengths and, unless the axis is narrower than the grid allows, the far end of
the window it checks. -/
def snapSteps (g : Grid) (origin len detector : Nat) : List Nat :=
  let a := g.step
  let start := origin / a * a
  let grown := len + (origin - start)
  let size := max (alignUp grown a) (alignUp g.minSize a)
  let far :=
    if size > detector then
      if detector / a * a < g.minSize ∨ detector / a * a = 0 then []
      else [start + detector / a * a]
    else [start + size]
  [grown, alignUp grown a, alignUp g.minSize a] ++ far

/-- Snaps both axes of a region inside a detector of the given size. -/
def fit (g : Grid) (r : Roi) (detector : Size) : Roi :=
  let (x, w) := g.snap r.topLeft.x r.size.width detector.width
  let (y, h) := g.snap r.topLeft.y r.size.height detector.height
  Roi.make x y w h

/-- `fit` on words: the horizontal axis first, then the vertical one. -/
def fitWord (g : Grid) (r : Roi) (detector : Size) : Except Overflow Roi := do
  let (x, w) ← g.snapWord r.topLeft.x r.size.width detector.width
  let (y, h) ← g.snapWord r.topLeft.y r.size.height detector.height
  return Roi.make x y w h

/-- The sums and products that `fitWord` forms, axis after axis. -/
def fitSteps (g : Grid) (r : Roi) (d : Size) : List Nat :=
  g.snapSteps r.topLeft.x r.size.width d.width ++ g.snapSteps r.topLeft.y r.size.height d.height

theorem alignUp_ge (v a : Nat) (ha : 0 < a) : v ≤ alignUp v a := by
  unfold alignUp
  have h := Nat.div_add_mod (v + a - 1) a
  have hm := Nat.mod_lt (v + a - 1) ha
  rw [Nat.mul_comm] at h
  omega

theorem alignUp_dvd (v a : Nat) : a ∣ alignUp v a :=
  Nat.dvd_mul_left a _

theorem step_pos (g : Grid) : 0 < g.step := by
  unfold step; omega

end Grid

end CameraAcquisition
