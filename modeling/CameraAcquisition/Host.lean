import CameraAcquisition.Host.Ring
import CameraAcquisition.Image.Digest

/-!
# The host application

The host owns the ring of frame buffers and a listener that writes down, for every frame it
is told of, the frame number and a digest of the frame's buffer. A listener that holds on at
a frame waits at a gate that the host opens; installing a listener closes the gate.

## What this module delivers

- `Heard`, `Host`, `Host.make`.
- `Host.listen`, `Host.unlisten`, `Host.openGate`, `Host.announce`.
-/

set_option autoImplicit false

namespace CameraAcquisition

/-- What the listener wrote down for one frame. -/
structure Heard where
  frame : Nat
  digest : Image.Digest
  deriving Repr, BEq, DecidableEq, Inhabited

/-- The host: its frame ring, its listener's notes, and the gate its listener may wait at. -/
structure Host where
  ring : Ring
  journal : Array Heard
  gateOpen : Bool
  deriving Inhabited

namespace Host

/-- A host with the given ring, nothing written down and the gate open. -/
def make (ring : Ring) : Host := { ring, journal := #[], gateOpen := true }

/-- Installs a listener and closes the gate. -/
def listen (l : Listener) (h : Host) : Host :=
  { h with ring := h.ring.listen l, gateOpen := false }

/-- Removes the listener. -/
def unlisten (h : Host) : Host := { h with ring := h.ring.unlisten }

/-- Opens the gate. -/
def openGate (h : Host) : Host := { h with gateOpen := true }

/-- What announcing a frame leads to: whether the acquisition should go on, and whether the
listener now holds on at the gate. -/
structure Verdict where
  keepGoing : Bool
  holds : Bool
  deriving Repr, BEq, DecidableEq, Inhabited

/-- Announces frame `n`: the ring records it, and a listener writes down the frame's
digest, answers, and holds on when `n` is its hold frame and the gate is closed. -/
def announce (n : Nat) (h : Host) : Host × Verdict :=
  let (ring, go) := h.ring.announce n
  match ring.listener with
  | none => ({ h with ring }, ⟨go, false⟩)
  | some l =>
    let note : Heard := ⟨n, Image.Digest.of (ring.slot n)⟩
    ({ h with ring, journal := h.journal.push note },
      ⟨go, l.holdAt == some n && !h.gateOpen⟩)

end Host

end CameraAcquisition
