import CameraAcquisition.Sdk.Frame
import Mathlib.Tactic.Set

/-!
# The bytes of images and host buffers

Frames and host buffers are byte strings, and the functions that build them are written for
speed: `repeatBytes` folds appends, `zeros` goes by blocks of 4096 bytes, `overlay` copies a
slice, and a frame's image prefix (`Frame.imagePrefix`) is computed without the whole ramp
image. Here each is read as a list of bytes, so that what a buffer holds can be said plainly:
`zeros n` is `n` zero bytes, an overlay starts with the copy's bytes and keeps the rest of the
buffer and its length, the ramp prefix is exactly the first bytes of the ramp
(`rampPrefix_eq`, `Frame.imagePrefix_eq`), and pixel `(x, y)` of a ramp holds the bytes of
`x` plus the frame number (`ramp_pixel`).

## What this module delivers

- `eq_of_toList`, `toList_extract`, `toList_repeatBytes`, `toList_repeatByte`, `toList_zeros`,
  `toList_overlay`, `toList_ramp`, with the sizes `size_repeatByte`, `size_zeros`,
  `size_overlay`, `size_ramp`, and `overlay_prefix`.
- `take_flatten_replicate`, `drop_flatten_replicate`: the first bytes of a row repeated, and
  the bytes from inside one of its rows on.
- `rampRow_pixel`, `ramp_pixel`: the two bytes of each pixel of a ramp.
- `rampPrefix_eq`, `Frame.imagePrefix_eq` and `Frame.size_image`.
-/

set_option autoImplicit false

namespace CameraAcquisition.Image

/-- Two byte strings with the same bytes are equal. -/
theorem eq_of_toList {a b : ByteArray} (h : a.data.toList = b.data.toList) : a = b :=
  ByteArray.ext (Array.ext' h)

@[simp] theorem length_toList (b : ByteArray) : b.data.toList.length = b.size :=
  Array.length_toList

/-- The first `k` bytes of a byte string. -/
theorem toList_extract (b : ByteArray) (k : Nat) :
    (b.extract 0 k).data.toList = b.data.toList.take k := by
  simp [ByteArray.data_extract, Array.toList_extract]

/-- `repeatBytes` writes `times` copies of its block one after the other. -/
theorem toList_repeatBytes (b : ByteArray) (t : Nat) :
    (repeatBytes b t).data.toList = (List.replicate t b.data.toList).flatten := by
  induction t with
  | zero => rfl
  | succ t ih =>
    -- one more fold step appends one more block
    have hstep : (repeatBytes b (t + 1)).data.toList =
        (repeatBytes b t).data.toList ++ b.data.toList := by
      simp only [repeatBytes, Nat.fold_succ, ByteArray.data_append, Array.toList_append]
      rfl
    rw [hstep, ih, List.replicate_succ', List.flatten_append]
    simp

/-- One byte repeated `n` times. -/
theorem toList_repeatByte (v : UInt8) (n : Nat) :
    (repeatBytes ⟨#[v]⟩ n).data.toList = List.replicate n v := by
  rw [toList_repeatBytes]
  exact List.flatten_replicate_singleton

@[simp] theorem size_repeatByte (v : UInt8) (n : Nat) : (repeatBytes ⟨#[v]⟩ n).size = n := by
  rw [← length_toList, toList_repeatByte, List.length_replicate]

/-- `zeros n` is `n` zero bytes. -/
theorem toList_zeros (n : Nat) : (zeros n).data.toList = List.replicate n 0 := by
  simp only [zeros, ByteArray.data_append, Array.toList_append, toList_repeatBytes,
    toList_extract, Array.toList_replicate, List.take_replicate, List.flatten_replicate_replicate]
  -- whole blocks of 4096 bytes, then the rest of the last block
  have hblocks : n / 4096 * min n 4096 = n / 4096 * 4096 := by
    rcases Nat.lt_or_ge n 4096 with h | h
    · simp [Nat.div_eq_of_lt h]
    · rw [Nat.min_eq_right h]
  have hrest : min (n % 4096) (min n 4096) = n % 4096 := by
    have := Nat.mod_lt n (by decide : 0 < 4096)
    have := Nat.mod_le n 4096
    omega
  rw [hblocks, hrest, List.replicate_append_replicate]
  congr 1
  have := Nat.div_add_mod n 4096
  omega

@[simp] theorem size_zeros (n : Nat) : (zeros n).size = n := by
  rw [← length_toList, toList_zeros, List.length_replicate]

/-- `overlay dest src` is the first bytes of `src`, as many as both have, then the rest of
`dest`. -/
theorem toList_overlay (dest src : ByteArray) :
    (overlay dest src).data.toList =
      src.data.toList.take (min src.size dest.size) ++
        dest.data.toList.drop (min src.size dest.size) := by
  -- the copy of a slice is the buffer before it, the slice and the buffer after it
  have hdata : (overlay dest src).data = dest.data.extract 0 0 ++
      src.data.extract 0 (0 + min src.size dest.size) ++
      dest.data.extract (0 + min (min src.size dest.size) (src.data.size - 0)) dest.data.size :=
    rfl
  rw [hdata]
  simp only [Array.toList_append, Array.toList_extract]
  simp only [List.extract_eq_take_drop, Nat.sub_self, List.drop_zero, List.take_zero,
    Nat.zero_add, Nat.sub_zero, List.nil_append, ByteArray.size_data, Nat.min_assoc,
    Nat.min_self_assoc', List.append_cancel_left_eq]
  exact List.take_of_length_le (by simp)

/-- An overlay keeps the length of the buffer it is written over. -/
@[simp] theorem size_overlay (dest src : ByteArray) : (overlay dest src).size = dest.size := by
  rw [← length_toList, toList_overlay, List.length_append, List.length_take, List.length_drop,
    length_toList, length_toList]
  omega

/-- A copy overlaid on a buffer starts with the copy's bytes, as many as the buffer holds. -/
theorem overlay_prefix (dest src : ByteArray) :
    (overlay dest src).data.toList.take (min src.size dest.size) =
      src.data.toList.take (min src.size dest.size) := by
  rw [toList_overlay, List.take_left']
  simp

/-- The first `k` elements of a row repeated `h` times: the whole rows that fit, then the part
of the next one. -/
theorem take_flatten_replicate {α : Type} (row : List α) (h k : Nat) (hL : 0 < row.length) :
    (List.replicate h row).flatten.take k =
      (List.replicate (min h (k / row.length)) row).flatten ++
        row.take (if min h (k / row.length) < h then k % row.length else 0) := by
  have hlen : ∀ t, ((List.replicate t row).flatten).length = t * row.length := by
    intro t
    simp only [List.length_flatten, List.map_replicate, List.sum_replicate_nat]
  rcases Nat.lt_or_ge (k / row.length) h with hq | hq
  · -- the prefix ends inside row number `k / row.length`
    rw [Nat.min_eq_right (Nat.le_of_lt hq), if_pos hq]
    have hk : k = (k / row.length) * row.length + k % row.length := by
      have := Nat.div_add_mod k row.length
      rw [Nat.mul_comm] at this
      omega
    set q := k / row.length
    obtain ⟨d, rfl⟩ := Nat.exists_eq_add_of_lt hq
    rw [show q + d + 1 = q + (d + 1) by omega, ← List.replicate_append_replicate,
      List.flatten_append, List.replicate_succ, List.flatten_cons]
    calc _ = ((List.replicate q row).flatten ++ (row ++ (List.replicate d row).flatten)).take
          ((List.replicate q row).flatten.length + k % row.length) := by rw [hlen, ← hk]
      _ = _ := by
        rw [List.take_length_add_append,
          List.take_append_of_le_length (Nat.le_of_lt (Nat.mod_lt _ hL))]
  · -- the prefix holds every row
    rw [Nat.min_eq_left hq, if_neg (Nat.lt_irrefl h), List.take_zero, List.append_nil,
      List.take_of_length_le]
    rw [hlen]
    exact (Nat.le_div_iff_mul_le hL).1 hq

/-- A row of the ramp has two bytes a pixel. -/
@[simp] theorem length_rampRow (width index : Nat) : (rampRow width index).length = width * 2 := by
  simp only [rampRow, pixelBytes, List.length_flatMap, List.length_cons, List.length_nil,
    List.map_const', List.length_range, List.sum_replicate_nat, Nat.zero_add, Nat.reduceAdd]

/-- The ramp image is its row, once per row of the frame. -/
theorem toList_ramp (width height index : Nat) :
    (ramp width height index).data.toList =
      (List.replicate height (rampRow width index)).flatten := by
  rw [ramp, toList_repeatBytes, List.data_toByteArray, List.toList_toArray]

@[simp] theorem size_ramp (width height index : Nat) :
    (ramp width height index).size = width * height * 2 := by
  rw [← length_toList, toList_ramp, List.length_flatten]
  simp only [List.map_replicate, length_rampRow, List.sum_replicate_nat]
  rw [Nat.mul_comm, Nat.mul_assoc]
  rw [Nat.mul_comm 2, ← Nat.mul_assoc]

/-- Past `y` whole rows and `k` bytes into the next, a row repeated `h` times reads on from
byte `k` of that row. -/
theorem drop_flatten_replicate {α : Type} (row : List α) {h y k : Nat} (hy : y < h)
    (hk : k ≤ row.length) :
    (List.replicate h row).flatten.drop (y * row.length + k) =
      row.drop k ++ (List.replicate (h - y - 1) row).flatten := by
  induction y generalizing h with
  | zero =>
    obtain ⟨h, rfl⟩ := Nat.exists_eq_add_of_lt hy
    simp [List.replicate_succ, List.drop_append, Nat.sub_eq_zero_of_le hk]
  | succ y ih =>
    -- the first row is dropped whole, and the rest is one row shorter
    obtain ⟨h, rfl⟩ := Nat.exists_eq_add_of_lt (Nat.lt_of_succ_lt hy)
    have hsplit : (y + 1) * row.length + k = row.length + (y * row.length + k) := by
      rw [Nat.succ_mul]
      omega
    rw [List.replicate_succ, List.flatten_cons, hsplit, List.drop_length_add_append,
      ih (by omega)]
    congr 3
    omega

theorem rampRow_succ (width index : Nat) :
    rampRow (width + 1) index = rampRow width index ++ pixelBytes ((width + index) % 65536) := by
  simp [rampRow, List.range_succ, List.flatMap_append]

/-- Pixel `x` of a ramp row is the two bytes of `(x + index) mod 2^16`. -/
theorem rampRow_pixel {width x : Nat} (index : Nat) (hx : x < width) :
    ((rampRow width index).drop (2 * x)).take 2 = pixelBytes ((x + index) % 65536) := by
  induction width with
  | zero => omega
  | succ width ih =>
    rw [rampRow_succ]
    rcases Nat.lt_succ_iff_lt_or_eq.1 hx with hx | rfl
    · -- an earlier pixel lies in the shorter row
      rw [List.drop_append_of_le_length (by simp; omega),
        List.take_append_of_le_length (by simp; omega), ih hx]
    · -- the last pixel is the bytes appended
      rw [show 2 * x = (rampRow x index).length by simp [Nat.mul_comm], List.drop_left]
      rfl

/-- Pixel `(x, y)` of a ramp image, at byte `2 (y · width + x)`, is the two bytes of
`(x + index) mod 2^16`: every row is the same ramp. -/
theorem ramp_pixel {width height x y : Nat} (index : Nat) (hx : x < width) (hy : y < height) :
    ((ramp width height index).data.toList.drop (2 * (y * width + x))).take 2 =
      pixelBytes ((x + index) % 65536) := by
  have hpos : 2 * (y * width + x) = y * (rampRow width index).length + 2 * x := by
    rw [length_rampRow, Nat.mul_add, Nat.mul_left_comm, Nat.mul_comm 2 width]
  rw [toList_ramp, hpos, drop_flatten_replicate _ hy (by simp; omega),
    List.take_append_of_le_length (by simp; omega), rampRow_pixel index hx]

/-- The prefix of the ramp computed without the whole image is the ramp's prefix. -/
theorem rampPrefix_eq (width height index k : Nat) :
    rampPrefix width height index k = (ramp width height index).extract 0 k := by
  apply eq_of_toList
  rw [toList_extract, toList_ramp]
  unfold rampPrefix
  simp only [List.size_toByteArray]
  by_cases h0 : (rampRow width index).length = 0
  · -- a frame without columns has no bytes
    rw [if_pos h0, List.eq_nil_of_length_eq_zero h0]
    simp
  · rw [if_neg h0, take_flatten_replicate _ _ _ (Nat.pos_of_ne_zero h0)]
    simp only [ByteArray.data_append, Array.toList_append, toList_repeatBytes, toList_extract,
      List.data_toByteArray, List.toList_toArray]

end CameraAcquisition.Image

namespace CameraAcquisition.Sdk.Frame

/-- The prefix of a frame's image, computed without the whole image, is the image's prefix. -/
theorem imagePrefix_eq (f : Frame) (k : Nat) : f.imagePrefix k = f.image.extract 0 k := by
  unfold imagePrefix image
  cases f.picture with
  | blank =>
    apply Image.eq_of_toList
    rw [Image.toList_extract, Image.toList_zeros, Image.toList_zeros, List.take_replicate]
  | ramp i => exact Image.rampPrefix_eq _ _ _ _

/-- A frame of two bytes a pixel has an image of its image size. -/
theorem size_image (f : Frame) (h : f.elemBytes = 2) : f.image.size = f.imgSize := by
  unfold image imgSize
  cases f.picture <;> simp [h]

end CameraAcquisition.Sdk.Frame
