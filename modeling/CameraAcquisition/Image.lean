/-!
# Image bytes

Frames are byte strings. A simulated camera writes a horizontal ramp: pixel `x` of every row
of frame number `i` holds the 16-bit value `(x + i) mod 2^16`, stored little-endian. Host
buffers start zeroed and receive the first bytes of each frame.

## What this module delivers

- `pixelBytes`, `rampRow` (a list model of one row), `ramp`, the bytes of a whole frame, and
  `rampPrefix`, its first bytes.
- `zeros`, `repeatBytes` and `overlay`, which copies a frame over the start of a buffer.
-/

set_option autoImplicit false

namespace CameraAcquisition.Image

/-- The two little-endian bytes of a 16-bit pixel value. -/
def pixelBytes (v : Nat) : List UInt8 :=
  [(v % 256).toUInt8, (v / 256 % 256).toUInt8]

/-- One row of the ramp of frame `index`: pixel `x` holds `(x + index) mod 2^16`. -/
def rampRow (width index : Nat) : List UInt8 :=
  (List.range width).flatMap fun x => pixelBytes ((x + index) % 65536)

/-- `times` copies of `b`, one after the other. -/
def repeatBytes (b : ByteArray) (times : Nat) : ByteArray :=
  Nat.fold times (fun _ _ acc => acc ++ b) (ByteArray.emptyWithCapacity (b.size * times))

/-- The ramp image of frame `index` with `height` rows of `width` pixels. -/
def ramp (width height index : Nat) : ByteArray :=
  repeatBytes (rampRow width index).toByteArray height

/-- The first `k` bytes of the ramp image, or all of it when it is shorter. -/
def rampPrefix (width height index k : Nat) : ByteArray :=
  let row := (rampRow width index).toByteArray
  if row.size = 0 then ByteArray.empty
  else
    let rows := min height (k / row.size)
    let rest := if rows < height then k % row.size else 0
    repeatBytes row rows ++ row.extract 0 rest

/-- `n` zero bytes. -/
def zeros (n : Nat) : ByteArray :=
  let block : ByteArray := ⟨Array.replicate (min n 4096) 0⟩
  repeatBytes block (n / 4096) ++ block.extract 0 (n % 4096)

/-- `dest` with its first bytes replaced by those of `src`, as many as both have. -/
def overlay (dest src : ByteArray) : ByteArray :=
  src.copySlice 0 dest 0 (min src.size dest.size)

end CameraAcquisition.Image
