import CameraAcquisition.Image

/-!
# SDK frame descriptors

The SDK hands out one frame descriptor per allocation: a header followed by the image of
one frame of the region current at allocation time. A frame wait writes the next image into
it and stamps it with the camera's frame number.

## What this module delivers

- `Picture`: what an image holds, nothing yet or the ramp of a frame number.
- `Frame`, `Frame.make`, `Frame.imgSize`, `Frame.image`, `Frame.imagePrefix` and `Frame.fill`.
-/

set_option autoImplicit false

namespace CameraAcquisition.Sdk

/-- The contents of a frame's image: zeros as allocated, or the ramp of frame `index`. -/
inductive Picture where
  | blank
  | ramp (index : Nat)
  deriving Repr, BEq, DecidableEq, Inhabited

/-- A frame descriptor: image geometry, header length, frame number and contents. -/
structure Frame where
  width : Nat
  height : Nat
  elemBytes : Nat
  /-- Bytes of header before the image. -/
  offset : Nat
  /-- Frame number given by the camera. -/
  index : Nat
  picture : Picture
  deriving Repr, BEq, DecidableEq, Inhabited

namespace Frame

/-- A fresh descriptor with a zeroed image. -/
def make (width height elemBytes header : Nat) : Frame :=
  { width, height, elemBytes, offset := header, index := 0, picture := .blank }

/-- Bytes of the image. -/
def imgSize (f : Frame) : Nat := f.width * f.height * f.elemBytes

/-- The image bytes. -/
def image (f : Frame) : ByteArray :=
  match f.picture with
  | .blank => Image.zeros f.imgSize
  | .ramp i => Image.ramp f.width f.height i

/-- The first `k` bytes of the image, or all of it when it is shorter. -/
def imagePrefix (f : Frame) (k : Nat) : ByteArray :=
  match f.picture with
  | .blank => Image.zeros (min k f.imgSize)
  | .ramp i => Image.rampPrefix f.width f.height i k

/-- The descriptor after the camera wrote frame number `index` into it. -/
def fill (f : Frame) (index : Nat) : Frame :=
  { f with index, picture := .ramp index }

end Frame

end CameraAcquisition.Sdk
