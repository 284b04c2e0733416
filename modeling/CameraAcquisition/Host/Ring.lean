import CameraAcquisition.Pixel
import CameraAcquisition.Image
import CameraAcquisition.Host.Error

/-!
# The host's ring of frame buffers

The host owns a ring of `count` buffers, each holding one frame of the current layout.
Frame `n` of an acquisition goes to slot `n mod count`. Changing the layout or the count
zeroes every slot; setting them to their current value changes nothing. A listener may be
installed: it is told of each new frame, answers whether the acquisition should go on
(`n < stopAfter`, or always without a limit), and may hold on at one frame number.

## What this module delivers

- `Listener`, `Ring`, `Ring.make`, `Ring.default`.
- `Ring.setLayout`, `Ring.setCount`, `Ring.checkConcat`, `Ring.markStart`, `Ring.slot`,
  `Ring.write`, `Ring.fill`, `Ring.announce`.
-/

set_option autoImplicit false

namespace CameraAcquisition

/-- The host's frame listener: after frame `stopAfter` it asks to stop, and at frame
`holdAt` it holds on until the host lets it go. -/
structure Listener where
  stopAfter : Option Nat
  holdAt : Option Nat
  deriving Repr, BEq, DecidableEq, Inhabited

namespace Listener

/-- Whether the acquisition should go on after frame `n`. -/
def keepGoing (l : Listener) (n : Nat) : Bool :=
  match l.stopAfter with
  | some k => decide (n < k)
  | none => true

end Listener

/-- The ring of frame buffers. -/
structure Ring where
  layout : Layout
  /-- Number of buffers, at least one. -/
  count : Nat
  slots : Array ByteArray
  /-- Whether an acquisition start time has been recorded. -/
  started : Bool
  listener : Option Listener
  /-- The last frame announced since the start time was recorded. -/
  lastFrame : Option Nat
  deriving Inhabited

namespace Ring

/-- `count` zeroed buffers of a layout. -/
def freshSlots (layout : Layout) (count : Nat) : Array ByteArray :=
  Array.replicate count (Image.zeros layout.memSize)

/-- One zeroed buffer of the given layout. -/
def make (layout : Layout) : Ring :=
  { layout, count := 1, slots := freshSlots layout 1, started := false, listener := none,
    lastFrame := none }

/-- One buffer of a single 16-bit pixel. -/
def default : Ring := make ⟨⟨1, 1⟩, .bpp16⟩

/-- Changes the layout; a new layout zeroes every buffer. -/
def setLayout (l : Layout) (r : Ring) : Ring :=
  if r.layout == l then r else { r with layout := l, slots := freshSlots l r.count }

/-- Changes the number of buffers; a new number zeroes every buffer. -/
def setCount (n : Nat) (r : Ring) : Except HostError Ring :=
  if n = 0 then .error (.invalidValue "at least one frame buffer is required")
  else if r.count = n then .ok r
  else .ok { r with count := n, slots := freshSlots r.layout n }

/-- Only one frame per buffer is supported. -/
def checkConcat (n : Nat) : Except HostError Unit :=
  if n ≠ 1 then .error (.notSupported s!"{n} concatenated frames") else .ok ()

/-- Records the start of an acquisition, which forgets the last frame. -/
def markStart (r : Ring) : Ring := { r with started := true, lastFrame := none }

/-- The buffer that receives frame `n`. -/
def slotOf (r : Ring) (n : Nat) : Nat := n % r.count

/-- The contents of the buffer that receives frame `n`. -/
def slot (r : Ring) (n : Nat) : ByteArray := r.slots.getD (r.slotOf n) ByteArray.empty

/-- Copies a frame image over the start of the buffer of frame `n`. -/
def write (n : Nat) (image : ByteArray) (r : Ring) : Ring :=
  { r with slots := r.slots.modify (r.slotOf n) fun b => Image.overlay b image }

/-- Sets every byte of the buffer of frame `n`. -/
def fill (n : Nat) (v : UInt8) (r : Ring) : Ring :=
  { r with slots := r.slots.modify (r.slotOf n) fun b => Image.repeatBytes ⟨#[v]⟩ b.size }

/-- Installs a listener. -/
def listen (l : Listener) (r : Ring) : Ring := { r with listener := some l }

/-- Removes the listener. -/
def unlisten (r : Ring) : Ring := { r with listener := none }

/-- Announces frame `n`: it becomes the last frame, and the answer is the listener's, or
`true` without one. -/
def announce (n : Nat) (r : Ring) : Ring × Bool :=
  let r := { r with lastFrame := some n }
  match r.listener with
  | some l => (r, l.keepGoing n)
  | none => (r, true)

end Ring

end CameraAcquisition
