import CameraAcquisition.Acquisition.Params
import CameraAcquisition.Geometry
import CameraAcquisition.Text.Reading
import CameraAcquisition.Text.Escape
import CameraAcquisition.Text.WhiteSpace

/-!
# The options of the command line

The program `dhyana` takes three options anywhere on its command line: a settings file, a
log file and the period of the simulated external trigger. It has two commands: `info`
prints what the detector is, and `record` runs one acquisition, with options for the number
of frames, the exposure, the latency, the trigger, the number of host buffers, a region of
interest and, for an endless acquisition, how long it lasts. A third command, `help`,
prints the help of the program or of a command. Every level has `-h`/`--help`; only the
program itself has `-V`/`--version`.

Values are read as the option says: file names must not be empty, counts are unsigned
64-bit decimals, times are decimal floats, the trigger is one of three names, and a region
is four unsigned 32-bit numbers separated by commas.

## What this module delivers

- `Trigger`, `Opt`, `Sub`, `Level` with their names, letters and help texts.
- `Given`, `Refusal` and `readGiven`, which reads an option's value.
-/

set_option autoImplicit false

namespace CameraAcquisition.CommandLine

/-- How the frames of a recording are triggered. -/
inductive Trigger where
  | internal
  | external
  | gate
  deriving Repr, BEq, DecidableEq, Inhabited

namespace Trigger

/-- The name of a trigger on the command line. -/
def name : Trigger → String
  | internal => "internal"
  | external => "external"
  | gate => "gate"

/-- All triggers, in order. -/
def all : List Trigger := [internal, external, gate]

/-- The trigger of a name; case matters. -/
def ofName? (s : String) : Option Trigger := all.find? (·.name == s)

/-- The camera's trigger mode for a trigger: one exposure started by software, one
external trigger per frame, or an exposure as long as the external gate. -/
def trigMode : Trigger → TrigMode
  | internal => .intTrig
  | external => .extTrigMult
  | gate => .extGate

end Trigger

/-- An option of the command line. -/
inductive Opt where
  | config
  | logFile
  | simTriggerPeriodMs
  | numFrames
  | exposure
  | latency
  | trigger
  | buffers
  | roi
  | duration
  | help
  | version
  deriving Repr, BEq, DecidableEq, Inhabited

namespace Opt

/-- The long name, written after `--`. -/
def long : Opt → String
  | config => "config"
  | logFile => "log-file"
  | simTriggerPeriodMs => "sim-trigger-period-ms"
  | numFrames => "num-frames"
  | exposure => "exposure"
  | latency => "latency"
  | trigger => "trigger"
  | buffers => "buffers"
  | roi => "roi"
  | duration => "duration"
  | help => "help"
  | version => "version"

/-- The letter, written after `-`, if the option has one. -/
def short : Opt → Option Char
  | numFrames => some 'n'
  | exposure => some 'e'
  | latency => some 'l'
  | trigger => some 't'
  | buffers => some 'b'
  | help => some 'h'
  | version => some 'V'
  | _ => none

/-- The name of the option's value, if it takes one. -/
def valueName : Opt → Option String
  | config => some "CONFIG"
  | logFile => some "LOG_FILE"
  | simTriggerPeriodMs => some "SIM_TRIGGER_PERIOD_MS"
  | numFrames => some "NUM_FRAMES"
  | exposure => some "EXPOSURE"
  | latency => some "LATENCY"
  | trigger => some "TRIGGER"
  | buffers => some "BUFFERS"
  | roi => some "ROI"
  | duration => some "DURATION"
  | help => none
  | version => none

/-- Whether the option takes a value. -/
def takesValue (o : Opt) : Bool := o.valueName.isSome

/-- The option as messages show it: its long name and the name of its value. -/
def shown (o : Opt) : String :=
  match o.valueName with
  | some v => "--" ++ o.long ++ " <" ++ v ++ ">"
  | none => "--" ++ o.long

/-- The values the option accepts, when they are a fixed list. -/
def choices : Opt → List String
  | trigger => Trigger.all.map Trigger.name
  | _ => []

end Opt

/-- A command of the program. -/
inductive Sub where
  | info
  | record
  | help
  deriving Repr, BEq, DecidableEq, Inhabited

namespace Sub

/-- The name of a command. -/
def name : Sub → String
  | info => "info"
  | record => "record"
  | help => "help"

/-- All commands, in order. -/
def all : List Sub := [info, record, help]

/-- The command of a name. -/
def ofName? (s : String) : Option Sub := all.find? (·.name == s)

end Sub

/-- A level of the command line: the program, or one of its commands. -/
inductive Level where
  | top
  | sub (s : Sub)
  deriving Repr, BEq, DecidableEq, Inhabited

/-- The description of the program and of each option, as the help prints them. -/
def programHelp : String :=
  "Acquire frames from a Tucsen Dhyana camera (simulated)

Usage: dhyana [OPTIONS] <COMMAND>

Commands:
  info    Print detector information
  record  Run one acquisition and log every frame
  help    Print this message or the help of the given subcommand(s)

Options:
      --config <CONFIG>
          TOML configuration file
      --log-file <LOG_FILE>
          Also write the log to this file
      --sim-trigger-period-ms <SIM_TRIGGER_PERIOD_MS>
          Interval of the simulated external trigger, in milliseconds [default: 100]
  -h, --help
          Print help
  -V, --version
          Print version
"

/-- The help of the `info` command. -/
def infoHelp : String :=
  "Print detector information

Usage: dhyana info [OPTIONS]

Options:
      --config <CONFIG>
          TOML configuration file
      --log-file <LOG_FILE>
          Also write the log to this file
      --sim-trigger-period-ms <SIM_TRIGGER_PERIOD_MS>
          Interval of the simulated external trigger, in milliseconds [default: 100]
  -h, --help
          Print help
"

/-- The help of the `record` command. -/
def recordHelp : String :=
  "Run one acquisition and log every frame

Usage: dhyana record [OPTIONS]

Options:
      --config <CONFIG>
          TOML configuration file
  -n, --num-frames <NUM_FRAMES>
          Number of frames, 0 to acquire until `duration` has elapsed [default: 10]
  -e, --exposure <EXPOSURE>
          Exposure time in seconds [default: 0.01]
      --log-file <LOG_FILE>
          Also write the log to this file
  -l, --latency <LATENCY>
          Latency between frames in seconds [default: 0]
      --sim-trigger-period-ms <SIM_TRIGGER_PERIOD_MS>
          Interval of the simulated external trigger, in milliseconds [default: 100]
  -t, --trigger <TRIGGER>
          [default: internal] [possible values: internal, external, gate]
  -b, --buffers <BUFFERS>
          Number of host frame buffers [default: 2]
      --roi <ROI>
          Region of interest as `x,y,width,height`
      --duration <DURATION>
          Length of a continuous acquisition, in seconds [default: 5]
  -h, --help
          Print help
"

/-- The help of the `help` command. -/
def helpHelp : String :=
  "Print this message or the help of the given subcommand(s)

Usage: dhyana help [COMMAND]...

Arguments:
  [COMMAND]...  Print help for the subcommand(s)
"

/-- What `--version` prints. -/
def versionText : String := "dhyana-cli 0.1.0\n"

namespace Level

/-- The options of a level, in the order the level knows them. -/
def options : Level → List Opt
  | top => [.config, .logFile, .simTriggerPeriodMs, .help, .version]
  | sub .info => [.config, .logFile, .simTriggerPeriodMs, .help]
  | sub .record =>
    [.numFrames, .exposure, .latency, .trigger, .buffers, .roi, .duration, .config, .logFile,
      .simTriggerPeriodMs, .help]
  | sub .help => []

/-- The options a level defines together as one group: the program's own three options at
the program's level, and a recording's seven at the recording's. Options a command takes
over from the program belong to no group there. -/
def group : Level → List Opt
  | top => [.config, .logFile, .simTriggerPeriodMs]
  | sub .record => [.numFrames, .exposure, .latency, .trigger, .buffers, .roi, .duration]
  | sub _ => []

/-- The commands of a level. -/
def subcommands : Level → List Sub
  | top => Sub.all
  | sub _ => []

/-- How the level is called: the program's name, then the command's. -/
def path : Level → String
  | top => "dhyana"
  | sub s => "dhyana " ++ s.name

/-- The usage line of a level. -/
def usage : Level → String
  | top => "dhyana [OPTIONS] <COMMAND>"
  | sub .help => "dhyana help [COMMAND]..."
  | sub s => "dhyana " ++ s.name ++ " [OPTIONS]"

/-- Whether a level has the `--help` option; `help` itself has none. -/
def hasHelpOption : Level → Bool
  | sub .help => false
  | _ => true

/-- The help of a level. -/
def helpText : Level → String
  | top => programHelp
  | sub .info => infoHelp
  | sub .record => recordHelp
  | sub .help => helpHelp

/-- The option of a long name. -/
def byLong (l : Level) (name : String) : Option Opt := l.options.find? (·.long == name)

/-- The option of a letter. -/
def byShort (l : Level) (c : Char) : Option Opt := l.options.find? (·.short == some c)

end Level

/-- A value read for an option. -/
inductive Given where
  | path (p : String)
  | whole (n : Nat)
  | real (x : Float)
  | trigger (t : Trigger)
  | region (r : Roi)
  deriving Inhabited

/-- Why a value was not taken: it is empty or not one of the accepted names, or it could
not be read, for the reason given. -/
inductive Refusal where
  | refused
  | unreadable (reason : String)
  deriving Repr, BEq, DecidableEq, Inhabited

/-- The largest unsigned 32-bit number. -/
def maxU32 : Nat := Nat.pow 2 32 - 1

/-- The largest unsigned 64-bit number. -/
def maxU64 : Nat := Nat.pow 2 64 - 1

/-- A region written `x,y,width,height`; spaces around each number are allowed. A number
that cannot be read is named, quoted, with the reason. -/
def readRegion (s : String) : Except String Roi := do
  let values ← (s.splitOn ",").mapM fun piece =>
    match Text.readUnsigned maxU32 (Text.trimWhiteSpace piece) with
    | .ok n => .ok n
    | .error e =>
      let shown := Text.quote piece
      let reason := e.message
      .error s!"{shown}: {reason}"
  match values with
  | [x, y, w, h] => pure (Roi.make x y w h)
  | _ =>
    let shown := Text.quote s
    throw s!"expected x,y,width,height, got {shown}"

/-- Reads the value of an option. -/
def readGiven (o : Opt) (v : String) : Except Refusal Given :=
  let whole : Except Refusal Given :=
    match Text.readUnsigned maxU64 v with
    | .ok n => .ok (.whole n)
    | .error e => .error (.unreadable e.message)
  let real : Except Refusal Given :=
    match Text.readFloat v with
    | .ok x => .ok (.real x)
    | .error e => .error (.unreadable e.message)
  match o with
  | .config | .logFile => if v.isEmpty then .error .refused else .ok (.path v)
  | .simTriggerPeriodMs | .numFrames | .buffers => whole
  | .exposure | .latency | .duration => real
  | .trigger =>
    match Trigger.ofName? v with
    | some t => .ok (.trigger t)
    | none => .error .refused
  | .roi =>
    match readRegion v with
    | .ok r => .ok (.region r)
    | .error m => .error (.unreadable m)
  | .help | .version => .error .refused

end CameraAcquisition.CommandLine
