import CameraAcquisition.CommandLine.Parse
import CameraAcquisition.Interface
import CameraAcquisition.Settings.Load

/-!
# The program

`dhyana info` opens the simulated camera and prints nine lines about it; `dhyana record`
opens it, sets it up through the host interface, records one acquisition and prints
nothing. The camera is built with the external trigger period of the command line, and with
the settings of the settings file when one is given, else the default settings.

A failure ends the program with status 1 and a report on standard error: the error, then
the errors that caused it, one per line, numbered when there are several. Lines printed
before the failure stay printed.

Recording resets the camera, sizes the host's buffers, programs the region, trigger,
exposure, latency and frame count, listens for frames, prepares and starts; a run with a
frame count is waited for until it took that many frames, an endless one is stopped after
its duration. The run is not watched while it lasts, so its worker is patient.

## What this module delivers

- `Reply`, `FileProblem`, `errorReport`.
- `Station` steps for the program, `infoLines`, `recording`.
- `execute`, the program once the command line is read and the settings file looked up.
-/

set_option autoImplicit false

namespace CameraAcquisition.CommandLine

/-- What a run of the program printed, and its exit status. -/
structure Reply where
  status : Nat
  stdout : String
  stderr : String
  deriving Repr, BEq, DecidableEq, Inhabited

/-- Why a file could not be created or read. -/
inductive FileProblem where
  | notFound
  | isDirectory
  | notDirectory
  | other (text : String)
  deriving Repr, BEq, DecidableEq, Inhabited

/-- The system's text for a file problem. -/
def FileProblem.message : FileProblem → String
  | .notFound => "No such file or directory (os error 2)"
  | .isDirectory => "Is a directory (os error 21)"
  | .notDirectory => "Not a directory (os error 20)"
  | .other text => text

/-- Indents every line of a text after the first. -/
def indentRest (indent text : String) : String := ("\n" ++ indent).intercalate (text.splitOn "\n")

/-- Pads a number on the left to five places. -/
def padNumber (n : Nat) : String :=
  let s := toString n
  String.ofList (List.replicate (5 - s.length) ' ') ++ s

/-- The report of an error and its causes. -/
def errorReport : List String → String
  | [] => ""
  | first :: causes =>
    let causeText := match causes with
      | [] => ""
      | [c] => "\n\nCaused by:\n    " ++ indentRest "    " c
      | cs =>
        "\n\nCaused by:" ++ String.join (cs.zipIdx.map fun (c, i) =>
          "\n" ++ padNumber i ++ ": " ++ indentRest "       " c)
    "Error: " ++ first ++ causeText ++ "\n"

/-- The program failed after printing `printed`. -/
def Reply.failure (printed : String) (chain : List String) : Reply := ⟨1, printed, errorReport chain⟩

/-- A step of the program on the camera; a failure carries the error and its causes. -/
abbrev Step (α : Type) := ExceptT (List String) (StateM Station) α

/-- A camera operation as a step. -/
def camStep {α : Type} (a : CamAct α) : Step α := ExceptT.mk fun st =>
  let (r, st) := a.exec st
  (r.mapError CameraError.chain, st)

/-- A host interface operation as a step. -/
def hwStep {α : Type} (a : HwAct α) : Step α := ExceptT.mk fun st =>
  let (r, st) := a.exec st
  (r.mapError fun e => [e.message], st)

/-- The simulated camera of the program, with its external trigger period. -/
def simulatorFor (periodMs : Nat) : Sdk.Simulator :=
  Sdk.Simulator.make { Sdk.SimConfig.default with triggerPeriodMs := periodMs }

/-- The settings of a run: read from the settings file if one is given, else the default. -/
def settingsFor (config : Option String) (contents : Option (Except FileProblem String)) :
    Except (List String) Settings :=
  match config, contents with
  | some path, some (.ok text) =>
    (loadSettings text).mapError fun e => ("while reading configuration " ++ path) :: e.chain
  | some path, some (.error p) =>
    .error (("while reading configuration " ++ path) :: (CameraError.io p.message).chain)
  | _, _ => .ok Settings.default

/-- Opens the camera of a run. -/
def openFor (inv : Invocation) (contents : Option (Except FileProblem String)) :
    Except (List String) Station := do
  let settings ← settingsFor inv.config contents
  match openCamera settings (simulatorFor inv.simTriggerPeriodMs) (Host.make Ring.default) with
  | (.ok st, _) => pure st
  | (.error e, _) => throw e.chain

/-- The lines `info` prints, each read from the camera when its turn comes. -/
def infoLines : List (CamAct String) :=
  let micrometers := Text.showFloat (pixelSize * 1e6)
  [pure ("type:        " ++ detectorType),
   (fun m => "model:       " ++ m) <$> Camera.detectorModel,
   pure ("size:        " ++ detectorSize.text),
   pure ("pixel size:  " ++ micrometers ++ " x " ++ micrometers ++ " um"),
   (fun v => "SDK:         " ++ v) <$> Camera.sdkVersion,
   (fun v => "firmware:    " ++ v) <$> Camera.firmwareVersion,
   (fun t => "temperature: " ++ Text.showFloat t ++ " C") <$> Camera.temperature,
   (fun v => "fan speed:   " ++ toString v) <$> Camera.fanSpeed,
   (fun g => "gain:        " ++ g.title) <$> Camera.globalGain]

/-- Prints lines one after the other until one fails: the text printed, and the failure. -/
def printLines : List (CamAct String) → Station → String × Option (List String)
  | [], _ => ("", none)
  | a :: rest, st =>
    match a.exec st with
    | (.ok line, st) =>
      let (text, failure) := printLines rest st
      (line ++ "\n" ++ text, failure)
    | (.error e, _) => ("", some e.chain)

/-- Sets the number of host buffers. -/
def setBuffers (n : Nat) : HwAct Unit := do
  let ring ← hostResult ((← get).host.ring.setCount n)
  modifyRing fun _ => ring

/-- The largest frame count the host interface takes. -/
def maxFrameCount : Nat := Nat.pow 2 63 - 1

/-- One recording. -/
def recording (a : RecordArgs) : Step Unit := do
  hwStep Interface.reset
  hwStep (setBuffers a.buffers)
  if let some r := a.roi then hwStep (hw (Camera.setRoi r))
  hwStep (hw (Camera.setTrigMode a.trigger.trigMode))
  hwStep (hw (Camera.setExpTime a.exposure))
  hwStep (hw (Camera.setLatTime a.latency))
  if a.numFrames > maxFrameCount then throw ["number too large to fit in target type"]
  hwStep (hw (Camera.setNbFrames a.numFrames))
  modify fun st => { st with host := st.host.listen ⟨none, none⟩ }
  hwStep Interface.prepareAcq
  hwStep (hw (acq Acquisition.start))
  if a.numFrames > 0 then
    modify fun st =>
      let done (p : Plant) : Bool := decide (p.ctl.frameCount ≥ a.numFrames) || !p.isRunning
      st.withPlant (Worker.runUntil true done Worker.fuel st.plant).1
  hwStep (hw (acq Acquisition.stop))
  modify fun st => { st with host := st.host.unlisten }

/-- Runs a read command line, given what the settings file holds, if one is named. -/
def execute (inv : Invocation) (contents : Option (Except FileProblem String)) : Reply :=
  match openFor inv contents with
  | .error chain => Reply.failure "" chain
  | .ok st =>
    match inv.command with
    | .info =>
      match printLines infoLines st with
      | (text, none) => ⟨0, text, ""⟩
      | (text, some chain) => Reply.failure text chain
    | .record a =>
      match ((recording a).run.run st).1 with
      | .ok () => ⟨0, "", ""⟩
      | .error chain => Reply.failure "" chain

end CameraAcquisition.CommandLine
