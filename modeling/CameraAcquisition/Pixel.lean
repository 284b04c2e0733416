import CameraAcquisition.Geometry

/-!
# Pixel depths and frame layouts

The host stores every frame with one pixel depth; a layout is a size and a depth, and its
memory size is the number of bytes one frame takes.

## What this module delivers

- `Depth` (8, 12, 16 or 32 bits per pixel) with `Depth.bytes` and its name.
- `Layout` with `Layout.memSize` and its text (`2048x2048 Bpp16`).
-/

set_option autoImplicit false

namespace CameraAcquisition

/-- Bits per pixel of a stored frame. -/
inductive Depth where
  | bpp8
  | bpp12
  | bpp16
  | bpp32
  deriving Repr, BEq, DecidableEq, Inhabited

namespace Depth

/-- Bytes one pixel takes: 12 bits are stored in two bytes. -/
def bytes : Depth → Nat
  | bpp8 => 1
  | bpp12 => 2
  | bpp16 => 2
  | bpp32 => 4

/-- The name of a depth, as the host shows it. -/
def name : Depth → String
  | bpp8 => "Bpp8"
  | bpp12 => "Bpp12"
  | bpp16 => "Bpp16"
  | bpp32 => "Bpp32"

/-- All depths, in their order. -/
def all : List Depth := [bpp8, bpp12, bpp16, bpp32]

/-- The depth with the given name. -/
def ofName? (s : String) : Option Depth := all.find? (·.name == s)

end Depth

/-- How one frame is stored: its size and its pixel depth. -/
structure Layout where
  size : Size
  depth : Depth
  deriving Repr, BEq, DecidableEq, Inhabited

namespace Layout

/-- Bytes needed to store one frame. -/
def memSize (l : Layout) : Nat := l.size.width * l.size.height * l.depth.bytes

/-- `WxH Depth`. -/
def text (l : Layout) : String := s!"{l.size.text} {l.depth.name}"

end Layout

end CameraAcquisition
