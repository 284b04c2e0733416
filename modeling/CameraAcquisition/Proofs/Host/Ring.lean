import CameraAcquisition.Host.Ring
import CameraAcquisition.Proofs.Image.Bytes

/-!
# The host's ring of frame buffers under any sequence of calls

The host's buffers are changed by a handful of calls: a new layout or a new number of buffers,
the check of concatenated frames, the start time, installing and removing the listener, writing
a frame or filling a buffer, and announcing a frame (`Ring.Op`, run one after the other by
`Ring.run`). A ring is well formed when it has at least one buffer, as many buffers as it
counts, and every buffer the size of a frame of its layout (`Ring.WellFormed`); every call keeps
this, so frame `n` always has a buffer, the one of number `n mod count`.

Changing the layout or the count zeroes every buffer exactly when the value changes
(`Ring.setLayout_slot`, `Ring.setCount_ok`), and writing frame `m` overlays buffer `m mod count`
only (`Ring.write_slot`). After frames `0, …, k-1` are written, the buffer of frame `i` holds
frame `i` when no later frame went to it (`Ring.frameWrites_slot`). The last frame is the one
of the last announcement since the start time was recorded, and the listener the one of the
last installation, if it was not removed since (`Ring.run_lastSet`). All of it is gathered in
`buffer_ring_calls_consistent`.

## What this module delivers

- `Layout.eq_of_beq`, `Layout.beq_self`, `Layout.beq_iff`.
- `Ring.WellFormed` with `Ring.wellFormed_make` and its preservation by every call, up to
  `Ring.WellFormed.run`.
- `Ring.setLayout_slot`, `Ring.setCount_ok`, `Ring.write_slot`, `Ring.write_extract_slot`,
  `Ring.fill_slot`, `Ring.announce_free`, `Ring.announce_fst`, `Ring.write_announce`.
- `Ring.Op`, `Ring.Op.step`, `Ring.run`, `Ring.run_lastSet`, `Ring.lastFrame_step`,
  `Ring.listener_step`.
- `Ring.frameWrites`, `Ring.frameWrites_slot_prefix`, `Ring.frameWrites_slot`.
- `buffer_ring_calls_consistent`.
-/

set_option autoImplicit false

namespace CameraAcquisition

/-! ## Layouts -/

/-- The derived test of layouts is equality. -/
theorem Layout.eq_of_beq {a b : Layout} (h : (a == b) = true) : a = b := by
  obtain ⟨⟨w, ht⟩, d⟩ := a
  obtain ⟨⟨w', ht'⟩, d'⟩ := b
  -- the derived test compares the fields one by one
  have e : ((⟨⟨w, ht⟩, d⟩ : Layout) == ⟨⟨w', ht'⟩, d'⟩) =
      (w == w' && ht == ht' && d == d') := rfl
  rw [e] at h
  simp only [Bool.and_eq_true, beq_iff_eq] at h
  obtain ⟨⟨rfl, rfl⟩, hd⟩ := h
  have hd' : d = d' := by
    revert hd
    cases d <;> cases d' <;> decide
  rw [hd']

theorem Layout.beq_self (l : Layout) : (l == l) = true := by
  obtain ⟨⟨w, ht⟩, d⟩ := l
  have e : ((⟨⟨w, ht⟩, d⟩ : Layout) == ⟨⟨w, ht⟩, d⟩) = (w == w && ht == ht && d == d) := rfl
  rw [e]
  simp only [beq_self_eq_true, Bool.true_and]
  cases d <;> rfl

theorem Layout.beq_iff {a b : Layout} : (a == b) = true ↔ a = b :=
  ⟨Layout.eq_of_beq, fun h => h ▸ Layout.beq_self a⟩

namespace Ring

/-! ## Well-formed rings and the calls one at a time -/

/-- A ring whose every frame has a buffer of the layout's size. -/
structure WellFormed (r : Ring) : Prop where
  count_pos : 0 < r.count
  slots_size : r.slots.size = r.count
  slot_size : ∀ n, (r.slot n).size = r.layout.memSize

variable {r : Ring}

/-- Setting a layout leaves the buffers with that layout. -/
@[simp] theorem setLayout_layout (l : Layout) (r : Ring) : (r.setLayout l).layout = l := by
  unfold setLayout
  split
  · next h => exact Layout.eq_of_beq h
  · rfl

@[simp] theorem setLayout_count (l : Layout) (r : Ring) : (r.setLayout l).count = r.count := by
  unfold setLayout
  split <;> rfl

@[simp] theorem write_layout (m : Nat) (image : ByteArray) (r : Ring) :
    (r.write m image).layout = r.layout := rfl

@[simp] theorem write_count (m : Nat) (image : ByteArray) (r : Ring) :
    (r.write m image).count = r.count := rfl

@[simp] theorem fill_layout (m : Nat) (v : UInt8) (r : Ring) : (r.fill m v).layout = r.layout :=
  rfl

@[simp] theorem fill_count (m : Nat) (v : UInt8) (r : Ring) : (r.fill m v).count = r.count := rfl

/-- Every buffer of freshly made slots is zero. -/
theorem slot_of_fresh {l : Layout} (hs : r.slots = freshSlots l r.count) (hc : 0 < r.count)
    (n : Nat) : r.slot n = Image.zeros l.memSize := by
  simp [slot, slotOf, hs, freshSlots, Array.getD_eq_getD_getElem?, Nat.mod_lt n hc]

/-- Changing the buffer of frame `m` changes the buffer of every frame with the same number
modulo the count, and no other. -/
theorem slot_modify (hs : r.slots.size = r.count) (hc : 0 < r.count) (m : Nat)
    (f : ByteArray → ByteArray) (n : Nat) :
    ({ r with slots := r.slots.modify (r.slotOf m) f } : Ring).slot n =
      if n % r.count = m % r.count then f (r.slot n) else r.slot n := by
  have hlt : n % r.count < r.slots.size := by
    rw [hs]
    exact Nat.mod_lt n hc
  simp only [slot, slotOf, Array.getD_eq_getD_getElem?, Array.getElem?_modify,
    Array.getElem?_eq_getElem hlt]
  by_cases h : n % r.count = m % r.count
  · simp [h]
  · simp [h, Ne.symm h]

/-- A new layout zeroes every buffer; the current one keeps them. -/
theorem setLayout_slot (h : r.WellFormed) (l : Layout) (n : Nat) :
    (r.setLayout l).slot n = if l = r.layout then r.slot n else Image.zeros l.memSize := by
  unfold setLayout
  by_cases hl : l = r.layout
  · rw [if_pos (Layout.beq_iff.2 hl.symm), if_pos hl]
  · rw [if_neg (mt Layout.eq_of_beq (Ne.symm hl)), if_neg hl]
    apply slot_of_fresh rfl
    exact h.count_pos

theorem WellFormed.setLayout (h : r.WellFormed) (l : Layout) : (r.setLayout l).WellFormed where
  count_pos := by simpa using h.count_pos
  slots_size := by
    unfold Ring.setLayout
    split
    · exact h.slots_size
    · simp [freshSlots]
  slot_size n := by
    rw [setLayout_slot h, setLayout_layout]
    split
    · next hl => rw [h.slot_size, hl]
    · exact Image.size_zeros _

/-- A count that is accepted becomes the count; a new one zeroes every buffer, the current
one keeps them. -/
theorem setCount_ok {c : Nat} {r' : Ring} (hc : r.setCount c = .ok r') :
    r'.count = c ∧ r'.layout = r.layout ∧
      ∀ n, r'.slot n = if c = r.count then r.slot n else Image.zeros r.layout.memSize := by
  unfold setCount at hc
  split at hc
  · cases hc
  · next hc0 =>
    split at hc
    · next he =>
      cases hc
      exact ⟨he, rfl, fun n => by rw [if_pos he.symm]⟩
    · next hne =>
      cases hc
      refine ⟨rfl, rfl, fun n => ?_⟩
      rw [if_neg (Ne.symm hne)]
      exact slot_of_fresh rfl (Nat.pos_of_ne_zero hc0) n

theorem WellFormed.setCount {c : Nat} {r' : Ring} (h : r.WellFormed)
    (hc : r.setCount c = .ok r') : r'.WellFormed := by
  unfold Ring.setCount at hc
  split at hc
  · cases hc
  · next hc0 =>
    split at hc
    · cases hc
      exact h
    · cases hc
      refine ⟨Nat.pos_of_ne_zero hc0, by simp [freshSlots], fun n => ?_⟩
      rw [slot_of_fresh rfl (Nat.pos_of_ne_zero hc0), Image.size_zeros]

/-- Writing frame `m` overlays the buffer of frame `m mod count` and no other. -/
theorem write_slot (h : r.WellFormed) (m : Nat) (image : ByteArray) (n : Nat) :
    (r.write m image).slot n =
      if n % r.count = m % r.count then Image.overlay (r.slot n) image else r.slot n :=
  slot_modify h.slots_size h.count_pos m _ n

theorem fill_slot (h : r.WellFormed) (m : Nat) (v : UInt8) (n : Nat) :
    (r.fill m v).slot n =
      if n % r.count = m % r.count then Image.repeatBytes ⟨#[v]⟩ (r.slot n).size else r.slot n :=
  slot_modify h.slots_size h.count_pos m _ n

theorem WellFormed.write (h : r.WellFormed) (m : Nat) (image : ByteArray) :
    (r.write m image).WellFormed where
  count_pos := h.count_pos
  slots_size := by simp [Ring.write, h.slots_size]
  slot_size n := by
    rw [write_slot h]
    split <;> simp [h.slot_size]

/-- A frame cut to the length of its buffer and copied over it: the buffer keeps its length
and starts with the frame's bytes, as many as both have. -/
theorem write_extract_slot (h : r.WellFormed) (n : Nat) (image : ByteArray) :
    ((r.write n (image.extract 0 (r.slot n).size)).slot n).size = (r.slot n).size ∧
      ((r.write n (image.extract 0 (r.slot n).size)).slot n).data.toList.take
          (min image.size (r.slot n).size) =
        image.data.toList.take (min image.size (r.slot n).size) := by
  have hb : (r.write n (image.extract 0 (r.slot n).size)).slot n =
      Image.overlay (r.slot n) (image.extract 0 (r.slot n).size) := by
    simp only [write_slot h, if_true]
  refine ⟨by rw [hb, Image.size_overlay], ?_⟩
  -- the copy holds the frame's first bytes, as many as the buffer has
  have hext : (image.extract 0 (r.slot n).size).size = min image.size (r.slot n).size := by
    rw [← Image.length_toList, Image.toList_extract, List.length_take, Image.length_toList,
      Nat.min_comm]
  have hp := Image.overlay_prefix (r.slot n) (image.extract 0 (r.slot n).size)
  rw [← hb, hext, Image.toList_extract, List.take_take] at hp
  have hm : min (min image.size (r.slot n).size) (r.slot n).size =
      min image.size (r.slot n).size := by
    omega
  rw [hm] at hp
  rw [hp, hm]

theorem WellFormed.fill (h : r.WellFormed) (m : Nat) (v : UInt8) : (r.fill m v).WellFormed where
  count_pos := h.count_pos
  slots_size := by simp [Ring.fill, h.slots_size]
  slot_size n := by
    rw [fill_slot h]
    split <;> simp [h.slot_size]

theorem wellFormed_make (l : Layout) : (make l).WellFormed where
  count_pos := Nat.one_pos
  slots_size := rfl
  slot_size n := by
    rw [slot_of_fresh rfl Nat.one_pos, Image.size_zeros]
    rfl

/-- Without a listener, an announcement always asks to go on. -/
theorem announce_free (h : r.listener = none) (n : Nat) : (r.announce n).2 = true := by
  simp [announce, h]

/-- An announcement records the frame as the last one and changes nothing else. -/
theorem announce_fst (r : Ring) (n : Nat) : (r.announce n).1 = { r with lastFrame := some n } := by
  unfold announce
  dsimp only
  split <;> rfl

/-- The answer to an announcement is the listener's, which a write leaves. -/
theorem write_announce (n k : Nat) (image : ByteArray) (r : Ring) :
    ((r.write n image).announce k).2 = (r.announce k).2 := by
  rcases r with ⟨layout, count, slots, started, listener, lastFrame⟩
  cases listener <;> rfl

/-! ## Sequences of calls -/

/-- The calls that change the host's buffers. -/
inductive Op where
  | setFrameDim (l : Layout)
  | setNbBuffers (n : Nat)
  | setNbConcatFrames (n : Nat)
  | setStartTimestamp
  | registerCallback (l : Listener)
  | unregisterCallback
  | write (n : Nat) (image : ByteArray)
  | fill (n : Nat) (v : UInt8)
  | newFrameReady (n : Nat)

namespace Op

/-- The ring after a call; a call that fails leaves it as it was. -/
def step : Op → Ring → Ring
  | setFrameDim l, r => r.setLayout l
  | setNbBuffers n, r =>
    match r.setCount n with
    | .ok r' => r'
    | .error _ => r
  | setNbConcatFrames _, r => r
  | setStartTimestamp, r => r.markStart
  | registerCallback l, r => r.listen l
  | unregisterCallback, r => r.unlisten
  | write n image, r => r.write n image
  | fill n v, r => r.fill n v
  | newFrameReady n, r => (r.announce n).1

/-- The last frame a call records, if it records one. -/
def lastFrameSet : Op → Option (Option Nat)
  | newFrameReady n => some (some n)
  | setStartTimestamp => some none
  | _ => none

/-- The listener a call installs or removes, if it does. -/
def listenerSet : Op → Option (Option Listener)
  | registerCallback l => some (some l)
  | unregisterCallback => some none
  | _ => none

end Op

/-- Calls made one after the other. -/
def run (ops : List Op) (r : Ring) : Ring := ops.foldl (fun r op => op.step r) r

theorem run_append (ops ops' : List Op) (r : Ring) :
    run (ops ++ ops') r = run ops' (run ops r) :=
  List.foldl_append

theorem WellFormed.step (h : r.WellFormed) (op : Op) : (op.step r).WellFormed := by
  cases op with
  | setFrameDim l => exact h.setLayout l
  | setNbBuffers n =>
    simp only [Op.step]
    split
    · next r' hr => exact h.setCount hr
    · exact h
  | setNbConcatFrames => exact h
  | setStartTimestamp => exact ⟨h.count_pos, h.slots_size, h.slot_size⟩
  | registerCallback l => exact ⟨h.count_pos, h.slots_size, h.slot_size⟩
  | unregisterCallback => exact ⟨h.count_pos, h.slots_size, h.slot_size⟩
  | write n image => exact h.write n image
  | fill n v => exact h.fill n v
  | newFrameReady n =>
    simp only [Op.step, announce]
    split <;> exact ⟨h.count_pos, h.slots_size, h.slot_size⟩

theorem WellFormed.run (h : r.WellFormed) (ops : List Op) : (run ops r).WellFormed := by
  induction ops generalizing r with
  | nil => exact h
  | cons op ops ih => exact ih (h.step op)

/-- A field that each call either sets or leaves alone ends with the value of the last call
that set it. -/
theorem run_lastSet {α : Type} (get : Ring → α) (sets : Op → Option α)
    (hstep : ∀ op r, get (op.step r) = (sets op).getD (get r)) (ops : List Op) (r : Ring) :
    get (run ops r) = ((ops.filterMap sets).getLast?).getD (get r) := by
  induction ops generalizing r with
  | nil => rfl
  | cons op ops ih =>
    -- the calls after the first decide, unless none of them sets the field
    show get (run ops (op.step r)) = _
    rw [ih, hstep, List.filterMap_cons]
    cases sets op with
    | none => rfl
    | some a => simp [List.getLast?_cons]

theorem setNbBuffers_step (n : Nat) (r : Ring) :
    (Op.setNbBuffers n).step r =
      if n = 0 ∨ r.count = n then r else { r with count := n, slots := freshSlots r.layout n } := by
  by_cases h0 : n = 0 <;> by_cases hc : r.count = n <;> simp [Op.step, setCount, h0, hc]

theorem lastFrame_step (op : Op) (r : Ring) :
    (op.step r).lastFrame = op.lastFrameSet.getD r.lastFrame := by
  cases op with
  | setNbBuffers n =>
    rw [setNbBuffers_step]
    split <;> rfl
  | newFrameReady n =>
    simp only [Op.step, announce, Op.lastFrameSet, Option.getD_some]
    split <;> rfl
  | setFrameDim l =>
    simp only [Op.step, Op.lastFrameSet, Option.getD_none, setLayout]
    split <;> rfl
  | _ => rfl

theorem listener_step (op : Op) (r : Ring) :
    (op.step r).listener = op.listenerSet.getD r.listener := by
  cases op with
  | setNbBuffers n =>
    rw [setNbBuffers_step]
    split <;> rfl
  | newFrameReady n =>
    simp only [Op.step, announce, Op.listenerSet, Option.getD_none]
    split <;> rfl
  | setFrameDim l =>
    simp only [Op.step, Op.listenerSet, Option.getD_none, setLayout]
    split <;> rfl
  | _ => rfl

/-! ## Frames written one after the other -/

/-- Frames `0, …, k-1` written in order. -/
def frameWrites (image : Nat → ByteArray) (k : Nat) : List Op :=
  (List.range k).map fun i => .write i (image i)

theorem run_frameWrites_succ (image : Nat → ByteArray) (k : Nat) (r : Ring) :
    run (frameWrites image (k + 1)) r = (run (frameWrites image k) r).write k (image k) := by
  rw [frameWrites, List.range_succ, List.map_append, run_append]
  rfl

@[simp] theorem layout_run_frameWrites (image : Nat → ByteArray) (k : Nat) (r : Ring) :
    (run (frameWrites image k) r).layout = r.layout := by
  induction k with
  | zero => rfl
  | succ k ih => rw [run_frameWrites_succ, write_layout, ih]

@[simp] theorem count_run_frameWrites (image : Nat → ByteArray) (k : Nat) (r : Ring) :
    (run (frameWrites image k) r).count = r.count := by
  induction k with
  | zero => rfl
  | succ k ih => rw [run_frameWrites_succ, write_count, ih]

/-- Two frame numbers less than a ring apart go to different buffers. -/
theorem mod_ne_of_lt {i k c : Nat} (hik : i < k) (hkc : k < i + c) : k % c ≠ i % c := by
  intro h
  have h0 : (k - i) % c = 0 := Nat.sub_mod_eq_zero_of_mod_eq h
  rw [Nat.mod_eq_of_lt (by omega)] at h0
  omega

/-- After frames `0, …, k-1` are written, the buffer of frame `i` starts with frame `i`, as much
of it as fits, when no later frame went to the same buffer. -/
theorem frameWrites_slot_prefix (h : r.WellFormed) (image : Nat → ByteArray) {k i : Nat}
    (hik : i < k) (hlast : k ≤ i + r.count) :
    ((run (frameWrites image k) r).slot i).data.toList.take
        (min (image i).size r.layout.memSize) =
      (image i).data.toList.take (min (image i).size r.layout.memSize) := by
  induction k with
  | zero => omega
  | succ k ih =>
    have hw := h.run (frameWrites image k)
    rw [run_frameWrites_succ, write_slot hw, count_run_frameWrites]
    rcases Nat.lt_succ_iff_lt_or_eq.1 hik with hik | rfl
    · -- frame `k` went to another buffer, which still starts with frame `i`
      rw [if_neg (mod_ne_of_lt hik (by omega)).symm]
      exact ih hik (by omega)
    · -- frame `i` is the last one written
      rw [if_pos rfl]
      have hsize : r.layout.memSize = ((run (frameWrites image i) r).slot i).size := by
        rw [hw.slot_size, layout_run_frameWrites]
      rw [hsize, Image.overlay_prefix]

/-- Frames of the buffers' size: the buffer of frame `i` holds exactly frame `i`. -/
theorem frameWrites_slot (h : r.WellFormed) (image : Nat → ByteArray) {k i : Nat}
    (hik : i < k) (hlast : k ≤ i + r.count) (hsize : (image i).size = r.layout.memSize) :
    (run (frameWrites image k) r).slot i = image i := by
  have hpre := frameWrites_slot_prefix h image hik hlast
  have hslot : ((run (frameWrites image k) r).slot i).size = r.layout.memSize := by
    rw [(h.run _).slot_size, layout_run_frameWrites]
  rw [hsize, Nat.min_self, List.take_of_length_le (by simp [hslot]),
    List.take_of_length_le (by simp [hsize])] at hpre
  exact Image.eq_of_toList hpre

end Ring

/-- Whatever calls are made on a new ring, every frame has a buffer of the layout's size, the
count and the concatenation are checked, the layout and the count zero the buffers exactly when
they change, frame `m` goes to buffer `m mod count`, the buffer of a frame holds the last frame
written to it, the last frame is the last one announced since the start time, and without a
listener an announcement asks to go on. -/
theorem buffer_ring_calls_consistent (l : Layout) (ops : List Ring.Op) :
    let r := Ring.run ops (Ring.make l)
    r.WellFormed ∧
    r.setCount 0 = .error (.invalidValue "at least one frame buffer is required") ∧
    Ring.checkConcat 1 = .ok () ∧
    (∀ k, k ≠ 1 → Ring.checkConcat k = .error (.notSupported s!"{k} concatenated frames")) ∧
    (∀ l' n, (r.setLayout l').slot n =
      if l' = r.layout then r.slot n else Image.zeros l'.memSize) ∧
    (∀ c r', r.setCount c = .ok r' → r'.count = c ∧
      ∀ n, r'.slot n = if c = r.count then r.slot n else Image.zeros r.layout.memSize) ∧
    (∀ m image n, (r.write m image).slot n =
      if n % r.count = m % r.count then Image.overlay (r.slot n) image else r.slot n) ∧
    (∀ (image : Nat → ByteArray) k i, i < k → k ≤ i + r.count →
      (image i).size = r.layout.memSize →
        (Ring.run (Ring.frameWrites image k) r).slot i = image i) ∧
    r.lastFrame = ((ops.filterMap Ring.Op.lastFrameSet).getLast?).getD none ∧
    r.listener = ((ops.filterMap Ring.Op.listenerSet).getLast?).getD none ∧
    (r.listener = none → ∀ n, (r.announce n).2 = true) := by
  intro r
  have h : r.WellFormed := (Ring.wellFormed_make l).run ops
  refine ⟨h, rfl, rfl, fun k hk => if_pos hk, fun l' n => Ring.setLayout_slot h l' n,
    fun c r' hc => ?_, fun m image n => Ring.write_slot h m image n,
    fun image k i hik hlast hsize => Ring.frameWrites_slot h image hik hlast hsize,
    Ring.run_lastSet Ring.lastFrame _ Ring.lastFrame_step ops _,
    Ring.run_lastSet Ring.listener _ Ring.listener_step ops _, Ring.announce_free⟩
  obtain ⟨hcount, -, hslot⟩ := Ring.setCount_ok hc
  exact ⟨hcount, hslot⟩

end CameraAcquisition
