/-!
# Sensor geometry

Sizes, points, regions of interest and binning factors of a sensor, with the texts the
library prints for them. Coordinates are pixel counts; a region with an empty size is
*inactive*, which a camera reads as the full frame.

## What this module delivers

- `Size`, `Point`, `Roi`, `Bin` and their texts (`2048x2048`, `<1,2>-3x4`, `1x1`).
- `Roi.isActive`, `Roi.bottomRight`, `Roi.fullFrame`, `Roi.inactive`.
-/

set_option autoImplicit false

namespace CameraAcquisition

/-- A width and a height in pixels. -/
structure Size where
  width : Nat
  height : Nat
  deriving Repr, BEq, DecidableEq, Inhabited

namespace Size

/-- A size with no pixel. -/
def isEmpty (s : Size) : Bool := s.width == 0 || s.height == 0

/-- `WxH`. -/
def text (s : Size) : String := s!"{s.width}x{s.height}"

end Size

/-- A pixel position, counted from the top left corner. -/
structure Point where
  x : Nat
  y : Nat
  deriving Repr, BEq, DecidableEq, Inhabited

/-- A rectangular part of the sensor: its top left corner and its size. -/
structure Roi where
  topLeft : Point
  size : Size
  deriving Repr, BEq, DecidableEq, Inhabited

namespace Roi

/-- The region at `(x, y)` of `width × height` pixels. -/
def make (x y width height : Nat) : Roi := ⟨⟨x, y⟩, ⟨width, height⟩⟩

/-- The inactive region, read as the full frame. -/
def inactive : Roi := make 0 0 0 0

/-- The whole of a sensor of the given size. -/
def fullFrame (s : Size) : Roi := make 0 0 s.width s.height

/-- A region is active when it holds at least one pixel. -/
def isActive (r : Roi) : Bool := !r.size.isEmpty

/-- The first column and the first row past the region. -/
def bottomRight (r : Roi) : Nat × Nat :=
  (r.topLeft.x + r.size.width, r.topLeft.y + r.size.height)

/-- `<x,y>-WxH`. -/
def text (r : Roi) : String := s!"<{r.topLeft.x},{r.topLeft.y}>-{r.size.text}"

@[simp] theorem isActive_make (x y w h : Nat) :
    (make x y w h).isActive = (w != 0 && h != 0) := by
  simp [make, isActive, Size.isEmpty]
  cases w <;> cases h <;> simp

end Roi

/-- Horizontal and vertical binning factors. -/
structure Bin where
  x : Nat
  y : Nat
  deriving Repr, BEq, DecidableEq

namespace Bin

/-- No binning. -/
def identity : Bin := ⟨1, 1⟩

instance : Inhabited Bin := ⟨identity⟩

/-- Whether both factors are one. -/
def isIdentity (b : Bin) : Bool := b.x == 1 && b.y == 1

/-- `XxY`. -/
def text (b : Bin) : String := s!"{b.x}x{b.y}"

end Bin

end CameraAcquisition
