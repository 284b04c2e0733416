import CameraAcquisition.CommandLine.Mistake

/-!
# Reading the command line

The words of a command line are read from left to right, first at the program's level and,
from the first word that names a command, at that command's level. At each level:

* `--name=value` and `--name value` give a long option its value, `-xvalue`, `-x=value` and
  `-x value` a short one; a value may not start with `-` unless it is attached.
* An option waiting for its value takes the next word that is neither an option nor `--`,
  even a command's name. Its value is read when the next option or the end of its level
  comes, so a mistake in it shows only then; an unknown option or a stray word found first
  is reported instead. At the program's level the end comes after the command's words, so
  every outcome of the command (its help, its mistakes) goes first. After `--` it waits in
  vain.
* An option given twice at one level is a mistake; the three options of the program may be
  given at both levels, and the command's value wins.
* `-h`/`--help` prints the level's help, `-V`/`--version` the version, once every earlier
  word was taken.
* After `--` every word is a plain word. Neither level takes plain words: at the program's
  level one is an unknown command, at a command's level an unexpected argument.
* `help` followed by command names prints the help of the last one.
* A command line without a command prints the help as a refusal when it has no options,
  and otherwise says that a command is missing.

## What this module delivers

- `Entry`, `Scan`, `react`, `resolve`: the options of a level and the one waiting for its value.
- `word` and `scan`, which read a level.
- `RecordArgs`, `Command`, `Invocation` and `parse`, the command line the program runs.
-/

set_option autoImplicit false

namespace CameraAcquisition.CommandLine

/-- An option given at a level, with its value once read. -/
structure Entry where
  opt : Opt
  value : Option Given
  deriving Inhabited

/-- The state of reading one level. -/
structure Scan where
  /-- The options given so far, in the order they were first taken. -/
  entries : List Entry := []
  /-- The option waiting for its value, and the value once it came. -/
  pending : Option (Opt × List String) := none
  /-- Whether `--` was seen. -/
  trailing : Bool := false
  deriving Inhabited

/-- The usage line of a refusal at a level: the level's own when no option was given,
otherwise the options given. -/
def usageWith (l : Level) (entries : List Entry) : String :=
  match entries with
  | [] => l.usage
  | _ =>
    let given := String.join (entries.map fun e => " " ++ e.opt.shown)
    l.path ++ given ++ (if l == .top then " <COMMAND>" else "")

/-- The usage line of a value given to a flag: the options given and the flag, where the
options of the level's group, once one of them is given, stand together as the group. -/
def usageGrouped (l : Level) (entries : List Entry) (flag : Opt) : String :=
  let grouped := entries.any fun e => l.group.contains e.opt
  let alone := (entries.map (·.opt) ++ [flag]).filter fun o => !(grouped && l.group.contains o)
  let groupText := if grouped then " <" ++ "|".intercalate (l.group.map Opt.shown) ++ ">" else ""
  l.path ++ String.join (alone.map fun o => " " ++ o.shown) ++ groupText ++
    (if l == .top then " <COMMAND>" else "")

/-- Takes an option with the values found for it. The option is recorded before its value
is read, so a value that cannot be read still leaves the option given; a second use takes
the first one back. -/
def react (l : Level) (o : Opt) (values : List String) (entries : List Entry) :
    List Entry × Option Mistake :=
  match values with
  | [] => (entries, some (.refused o ""))
  | v :: _ =>
    if entries.any (·.opt == o) then
      (entries.filter (·.opt != o), some (.repeated o l.usage))
    else
      match readGiven o v with
      | .ok g => (entries ++ [⟨o, some g⟩], none)
      | .error .refused => (entries ++ [⟨o, none⟩], some (.refused o v))
      | .error (.unreadable reason) => (entries ++ [⟨o, none⟩], some (.unreadable o v reason))

/-- Takes the option waiting for its value, if any. -/
def resolve (l : Level) (s : Scan) : Scan × Option Mistake :=
  match s.pending with
  | none => (s, none)
  | some (o, values) =>
    let (entries, m) := react l o values s.entries
    ({ s with entries, pending := none }, m)

/-- What reading one word comes to. -/
inductive Effect where
  /-- Go on with the next word. -/
  | next (s : Scan)
  /-- The remaining words belong to this command. -/
  | enter (c : Sub) (s : Scan)
  /-- Reading ends. -/
  | stop (st : Stop)
  deriving Inhabited

/-- Ends reading with a mistake. -/
def refuse (m : Mistake) : Effect := .stop (.reject m.render)

/-- Takes the waiting option, then goes on as `k` says. -/
def afterResolve (l : Level) (s : Scan) (k : Scan → Effect) : Effect :=
  match resolve l s with
  | (_, some m) => refuse m
  | (s, none) => k s

/-- The help `help` prints for the command names that follow it. -/
def helpFor (names : List String) : Stop :=
  let rec go (l : Level) : List String → Stop
    | [] => .show l.helpText
    | n :: rest =>
      match l.subcommands.find? (·.name == n) with
      | some c => go (.sub c) rest
      | none => .reject (Mistake.unknownTopic n l).render
  go .top names

/-- The mistake of an unknown long option, with a tip: a similar option of the level, or
else a similar option of a command named later on the line. -/
def unknownLong (l : Level) (name : String) (rest : List String) (entries : List Entry) :
    Mistake :=
  match (similarWords name (l.options.map Opt.long)).getLast? >>= l.byLong with
  | some o =>
    -- the option suggested counts as given when the usage line is written
    let entries := if entries.any (·.opt == o) then entries else entries ++ [⟨o, none⟩]
    let similar := o.long
    .unexpected ("--" ++ name) (some s!"a similar argument exists: '--{similar}'")
      (usageWith l entries)
  | none =>
    let later := l.subcommands.filterMap fun c =>
      match (similarWords name ((Level.sub c).options.map Opt.long)).getLast?,
          rest.idxOf? c.name with
      | some o, some pos =>
        let command := c.name
        some (pos, s!"'{command} --{o}' exists")
      | _, _ => none
    -- the command named first on the rest of the line wins
    let tip := match later with
      | [] => none
      | x :: more => some (more.foldl (fun best y => if y.1 < best.1 then y else best) x).2
    .unexpected ("--" ++ name) tip (usageWith l entries)

/-- The mistake of a plain word. -/
def strayWord (l : Level) (w : String) (trailing : Bool) : Mistake :=
  let names := l.subcommands.map Sub.name
  if trailing && names.contains w then .dashBeforeCommand w l.usage
  else if names.isEmpty then .unexpected w none l.usage
  else .unknownCommand w (similarWords w names) l.usage

/-- Gives an option its value, or waits for the value, or acts on a flag. -/
def takeOption (l : Level) (o : Opt) (attached : Option String) (s : Scan) : Effect :=
  afterResolve l s fun s =>
    if o.takesValue then
      match attached with
      | some v =>
        match react l o [v] s.entries with
        | (_, some m) => refuse m
        | (entries, none) => .next { s with entries }
      | none => .next { s with pending := some (o, []) }
    else if o == .help then .stop (.show l.helpText)
    else .stop (.show versionText)

/-- Reads a long option, `--name` or `--name=value`. -/
def longWord (l : Level) (body : String) (rest : List String) (s : Scan) : Effect :=
  let (name, attached) := match body.splitOn "=" with
    | [n] => (n, none)
    | n :: more => (n, some ("=".intercalate more))
    | [] => (body, none)
  match l.byLong name with
  | some o =>
    match attached, o.takesValue with
    | some v, false => refuse (.surplus o v (usageGrouped l s.entries o))
    | _, _ => takeOption l o attached s
  | none =>
    let s := (resolve l s).1
    refuse (unknownLong l name rest s.entries)

/-- Reads a cluster of short options, `-abc`: letters without values, then perhaps one
with its value attached. -/
def shortWord (l : Level) : List Char → Scan → Effect
  | [], s => .next s
  | c :: more, s =>
    match l.byShort c with
    | some o =>
      if o.takesValue then
        let attached := match more with
          | [] => none
          | '=' :: v => some (String.ofList v)
          | v => some (String.ofList v)
        takeOption l o attached s
      else
        match takeOption l o none s with
        | .next s => shortWord l more s
        | e => e
    | none => refuse (.unexpected ("-" ++ c.toString) none l.usage)

/-- Reads one word at a level; `rest` are the words after it. -/
def word (l : Level) (w : String) (rest : List String) (s : Scan) : Effect :=
  if s.trailing then
    let s := (resolve l s).1
    refuse (strayWord l w s.trailing)
  else if w == "--" then .next { s with trailing := true }
  else if w.startsWith "--" then longWord l (String.ofList (w.toList.drop 2)) rest s
  else if w.startsWith "-" && w.length > 1 then shortWord l (w.toList.drop 1) s
  else
    match s.pending with
    | some (o, []) => .next { s with pending := some (o, [w]) }
    | _ =>
      if l.subcommands.any (·.name == w) then
        match Sub.ofName? w with
        -- help is printed before the waiting option's value is read
        | some .help => .stop (helpFor rest)
        | some c => .enter c s
        | none => .next s
      else
        let s := (resolve l s).1
        refuse (strayWord l w s.trailing)

/-- Reads the words of a level, until a command takes the rest. When a command does, the
option waiting for its value still waits. -/
def scan (l : Level) :
    List String → Scan → Except Stop (Scan × Option (Sub × List String))
  | [], s =>
    match resolve l s with
    | (_, some m) => .error (.reject m.render)
    | (s, none) => .ok (s, none)
  | w :: rest, s =>
    match word l w rest s with
    | .next s => scan l rest s
    | .enter c s => .ok (s, some (c, rest))
    | .stop st => .error st

/-- The options of a recording. -/
structure RecordArgs where
  /-- Frames to take; zero for an acquisition that lasts `duration`. -/
  numFrames : Nat := 10
  /-- Exposure time in seconds. -/
  exposure : Float := 0.01
  /-- Latency between frames in seconds. -/
  latency : Float := 0.0
  trigger : Trigger := .internal
  /-- Number of host frame buffers. -/
  buffers : Nat := 2
  roi : Option Roi := none
  /-- Length of an endless acquisition in seconds. -/
  duration : Float := 5.0
  deriving Inhabited

/-- What the program is asked to do. -/
inductive Command where
  | info
  | record (a : RecordArgs)
  deriving Inhabited

/-- A command line the program runs. -/
structure Invocation where
  /-- The settings file, if any. -/
  config : Option String
  /-- The log file, if any. -/
  logFile : Option String
  /-- The period of the simulated external trigger in milliseconds. -/
  simTriggerPeriodMs : Nat
  command : Command
  deriving Inhabited

/-- The value given for an option, if one was. -/
def givenFor (entries : List Entry) (o : Opt) : Option Given :=
  (entries.find? (·.opt == o)).bind (·.value)

/-- A file name given for an option. -/
def pathFor (entries : List Entry) (o : Opt) : Option String :=
  match givenFor entries o with
  | some (.path p) => some p
  | _ => none

/-- A count given for an option, or its default. -/
def wholeFor (entries : List Entry) (o : Opt) (d : Nat) : Nat :=
  match givenFor entries o with
  | some (.whole n) => n
  | _ => d

/-- A time given for an option, or its default. -/
def realFor (entries : List Entry) (o : Opt) (d : Float) : Float :=
  match givenFor entries o with
  | some (.real x) => x
  | _ => d

/-- The command line a command runs with: the command's own options, and the program's
options given at either level, the command's value first. -/
def Invocation.make (c : Sub) (top own : List Entry) : Invocation :=
  let both := own ++ top
  let command := match c with
    | .record =>
      Command.record
        { numFrames := wholeFor own .numFrames 10
          exposure := realFor own .exposure 0.01
          latency := realFor own .latency 0.0
          trigger := match givenFor own .trigger with
            | some (.trigger t) => t
            | _ => .internal
          buffers := wholeFor own .buffers 2
          roi := match givenFor own .roi with
            | some (.region r) => some r
            | _ => none
          duration := realFor own .duration 5.0 }
    | _ => Command.info
  { config := pathFor both .config, logFile := pathFor both .logFile,
    simTriggerPeriodMs := wholeFor both .simTriggerPeriodMs 100, command }

/-- Reads a command line: the command to run, or where reading stopped. -/
def parse (args : List String) : Except Stop Invocation := do
  let (top, next) ← scan .top args {}
  match next with
  | none =>
    if top.entries.isEmpty then throw (.reject programHelp)
    else throw (.reject Mistake.commandMissing.render)
  | some (c, rest) =>
    let (own, _) ← scan (.sub c) rest {}
    -- the program's waiting option is read once the command's words are
    match resolve .top top with
    | (_, some m) => throw (.reject m.render)
    | (top, none) => pure (Invocation.make c top.entries own.entries)

end CameraAcquisition.CommandLine
