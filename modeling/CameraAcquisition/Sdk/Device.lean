import CameraAcquisition.Sdk.Simulator

/-!
# Opening and closing a device

A device is an opened camera. Opening initialises the API, checks that the requested index
is among the cameras found and opens it; every failure shuts the API down again, so a failed
open leaves the API closed. Closing a device closes it and shuts the API down.

## What this module delivers

- `Simulator.openDevice` and `Simulator.closeDevice`.
-/

set_option autoImplicit false

namespace CameraAcquisition.Sdk

namespace Simulator

/-- Opens camera `index`, or says why it cannot be used. -/
def openDevice (index : Nat) (s : Simulator) : Except DeviceError Unit × Simulator :=
  match s.apiInit with
  | (.error e, s) => (.error (.call e), s.apiUninit)
  | (.ok count, s) =>
    if count = 0 then (.error .noCamera, s.apiUninit)
    else if index ≥ count then (.error (.noSuchCamera index count), s.apiUninit)
    else match s.devOpen index with
      | (.error e, s) => (.error (.call e), s.apiUninit)
      | (.ok (), s) => (.ok (), s)

/-- Closes the device and shuts the API down. -/
def closeDevice (s : Simulator) : Simulator := s.devClose.apiUninit

end Simulator

end CameraAcquisition.Sdk
