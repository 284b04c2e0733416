import CameraAcquisition.Proofs.Sdk.Consistency

/-!
# What a frame wait writes

A frame wait that succeeds writes the camera's next frame into the frame descriptor it was
given: the descriptor is stamped with the camera's frame counter, the counter moves on modulo
`2^32` and the count of frames by one, and the image becomes the horizontal ramp of that frame
number. The ramp is a row of 16-bit pixels repeated once per row, so pixel `(x, y)` holds the
little-endian word `x + i`, both truncated to 16 bits and added with wrap-around
(`frame_fill_writes_ramp`). The descriptor's geometry and header stay as they were.

## What this module delivers

- `Image.pixelBytes_eq_word`: the two bytes of a ramp pixel are those of a 16-bit sum.
- `frame_fill_writes_ramp` and its instance `frame_fill_writes_ramp_wrapping`, where the frame
  number is `2^16 - 1` so that the ramp wraps at its second pixel.
-/

set_option autoImplicit false

namespace CameraAcquisition

/-- The bytes of ramp pixel `x` of frame `i`: the 16-bit word `x + i`, with `x` and `i`
truncated to 16 bits and added with wrap-around, low byte first. -/
theorem Image.pixelBytes_eq_word (x i : Nat) :
    Image.pixelBytes ((x + i) % 65536) =
      [(x.toUInt16 + i.toUInt16).toUInt8, ((x.toUInt16 + i.toUInt16) >>> 8).toUInt8] := by
  simp only [Image.pixelBytes, List.cons.injEq, and_true]
  constructor
  · -- the low byte: both sides are the sum modulo 256
    apply UInt8.toNat_inj.mp
    simp only [Nat.toUInt8_eq, UInt8.toNat_ofNat', Nat.toUInt16_eq, UInt16.toUInt8_add,
      UInt16.toUInt8_ofNat', UInt8.toNat_add, Nat.add_mod_mod, Nat.mod_add_mod, Nat.reducePow,
      Nat.reduceDvd, Nat.mod_mod_of_dvd]
  · -- the high byte: the sum modulo 2^16, shifted by eight bits
    apply UInt8.toNat_inj.mp
    simp only [Nat.toUInt8_eq, UInt8.toNat_ofNat', Nat.reducePow, Nat.dvd_refl, Nat.mod_mod_of_dvd,
      Nat.toUInt16_eq, UInt16.toNat_toUInt8, UInt16.toNat_shiftRight, UInt16.toNat_add,
      UInt16.toNat_ofNat', Nat.add_mod_mod, Nat.mod_add_mod, UInt16.reduceToNat, Nat.reduceMod]
    omega

namespace Sdk

/-- A frame of two bytes a pixel that the camera fills is stamped with the frame counter, which
moves on modulo `2^32` while the count of frames grows by one. The frame keeps its geometry and
its header, its image has two bytes a pixel, and pixel `(x, y)` holds the little-endian word
`x + i` of 16-bit wrap-around arithmetic, `i` being the frame number. -/
theorem frame_fill_writes_ramp (s : Simulator) (f : Frame) (hf : f.elemBytes = 2) :
    ∃ g, (s.deliver f).1 = .captured g ∧ g.index = s.nextIndex ∧
      (s.deliver f).2.nextIndex = (s.nextIndex + 1) % Nat.pow 2 32 ∧
      (s.deliver f).2.stats.frames = s.stats.frames + 1 ∧
      g.width = f.width ∧ g.height = f.height ∧ g.elemBytes = f.elemBytes ∧
      g.offset = f.offset ∧ g.image.size = g.imgSize ∧
      ∀ x y, x < g.width → y < g.height →
        (g.image.data.toList.drop (2 * (y * g.width + x))).take 2 =
          [(x.toUInt16 + s.nextIndex.toUInt16).toUInt8,
            ((x.toUInt16 + s.nextIndex.toUInt16) >>> 8).toUInt8] := by
  refine ⟨f.fill s.nextIndex, rfl, rfl, rfl, rfl, rfl, rfl, rfl, rfl,
    Frame.size_image _ hf, fun x y hx hy => ?_⟩
  -- the filled image is the ramp of the frame number
  have himage : (f.fill s.nextIndex).image = Image.ramp f.width f.height s.nextIndex := rfl
  rw [himage]
  exact (Image.ramp_pixel _ hx hy).trans (Image.pixelBytes_eq_word _ _)

/-- Frame 1 of a 2 × 1 region starts its ramp at 1. -/
example : ((Frame.make 2 1 2 headerBytes).fill 1).image.data.toList = [1, 0, 2, 0] := by decide

/-- A 3 × 2 frame filled as frame `2^16 - 1`: its pixels read `2^16 - 1`, `0` and `1`. -/
theorem frame_fill_writes_ramp_wrapping :
    let s : Simulator := { (default : Simulator) with nextIndex := 65535 }
    let f := Frame.make 3 2 2 headerBytes
    f.elemBytes = 2 ∧
    ∃ g, (s.deliver f).1 = .captured g ∧ g.index = s.nextIndex ∧
      (s.deliver f).2.nextIndex = (s.nextIndex + 1) % Nat.pow 2 32 ∧
      (s.deliver f).2.stats.frames = s.stats.frames + 1 ∧
      g.width = f.width ∧ g.height = f.height ∧ g.elemBytes = f.elemBytes ∧
      g.offset = f.offset ∧ g.image.size = g.imgSize ∧
      ∀ x y, x < g.width → y < g.height →
        (g.image.data.toList.drop (2 * (y * g.width + x))).take 2 =
          [(x.toUInt16 + s.nextIndex.toUInt16).toUInt8,
            ((x.toUInt16 + s.nextIndex.toUInt16) >>> 8).toUInt8] :=
  ⟨rfl, frame_fill_writes_ramp _ _ rfl⟩

end Sdk

end CameraAcquisition
