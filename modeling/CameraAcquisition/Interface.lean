import CameraAcquisition.Camera

/-!
# The host interface of a camera

The host sees a camera through five capabilities: detector information, synchronisation,
its own frame buffers, the region of interest and binning. Every error the camera reports is
classified for the host: invalid values and settings are invalid values, unsupported
features stay unsupported, and everything else is a hardware error.

Preparing an acquisition first sizes the host's buffers to the region programmed in the
camera, with 16-bit pixels. A reset resets the camera and then sets the host buffers back to
one buffer of a full 16-bit frame.

## What this module delivers

- `Capability` with its names, and `capabilities`.
- `ResetLevel`.
- `HwAct`, `hw`, and the interface operations `Interface.reset` and `Interface.prepareAcq`.
-/

set_option autoImplicit false

namespace CameraAcquisition

/-- What the host can ask of a camera. -/
inductive Capability where
  | detInfo
  | sync
  | buffer
  | roi
  | bin
  deriving Repr, BEq, DecidableEq, Inhabited

namespace Capability

/-- The name of a capability. -/
def name : Capability → String
  | detInfo => "DetInfo"
  | sync => "Sync"
  | buffer => "Buffer"
  | roi => "Roi"
  | bin => "Bin"

/-- The name of a capability with its type, as debugging output shows it. -/
def debugName (c : Capability) : String := "Capability::" ++ c.name

end Capability

/-- The capabilities of a camera, in order. -/
def capabilities : List Capability := [.detInfo, .sync, .buffer, .roi, .bin]

/-- How thoroughly the host resets a camera. -/
inductive ResetLevel where
  | softReset
  | hardReset
  deriving Repr, BEq, DecidableEq, Inhabited

namespace ResetLevel

/-- The name of a level. -/
def name : ResetLevel → String
  | softReset => "SoftReset"
  | hardReset => "HardReset"

/-- The level of a name. -/
def ofName? (s : String) : Option ResetLevel :=
  [softReset, hardReset].find? (·.name == s)

end ResetLevel

/-- An operation of the host interface; errors are classified for the host. -/
abbrev HwAct (α : Type) := ExceptT HostError (StateM Station) α

/-- Runs a host interface operation on a station. -/
def HwAct.exec {α : Type} (a : HwAct α) (st : Station) : Except HostError α × Station :=
  (a.run.run st).run

/-- A camera operation as the host sees it. -/
def hw {α : Type} (a : CamAct α) : HwAct α := ExceptT.mk do
  match ← a.run with
  | .ok v => pure (.ok v)
  | .error e => pure (.error e.toHost)

/-- Lifts a failure of the host's buffers. -/
def hostResult {α : Type} (r : Except HostError α) : HwAct α :=
  match r with
  | .ok a => pure a
  | .error e => throw e

/-- Changes the host's ring of buffers. -/
def modifyRing (f : Ring → Ring) : HwAct Unit :=
  modify fun st => { st with host := { st.host with ring := f st.host.ring } }

namespace Interface

/-- Resets the camera, then the host's buffers to one buffer of a full 16-bit frame. -/
def reset : HwAct Unit := do
  hw (acq Acquisition.reset)
  modifyRing (Ring.setLayout ⟨detectorSize, .bpp16⟩)
  hostResult (Ring.checkConcat 1)
  let ring ← hostResult ((← get).host.ring.setCount 1)
  modifyRing fun _ => ring

/-- Sizes the host's buffers to the camera's region, then prepares the acquisition. -/
def prepareAcq : HwAct Unit := do
  let r ← hw Camera.roi
  modifyRing (Ring.setLayout ⟨r.size, .bpp16⟩)
  hw (acq Acquisition.prepare)

end Interface

end CameraAcquisition
