import CameraAcquisition.CommandLine.Options
import CameraAcquisition.CommandLine.Similarity

/-!
# Mistakes on the command line

A command line the program cannot take is refused with a message on standard error and
exit status 2. The message names the mistake; it may add a tip, the usage line of the level
where the mistake was found, and always ends by pointing at `--help`:

    error: unexpected argument '--durtion' found

      tip: a similar argument exists: '--duration'

    Usage: dhyana record [OPTIONS]

    For more information, try '--help'.

Mistakes about a value (missing, not one of the accepted names, or unreadable) carry no
usage line; a value that is not one of the accepted names lists them.

## What this module delivers

- `Mistake` and `Mistake.render`.
- `Stop`: where reading the command line ends early, with help, the version, or a mistake.
-/

set_option autoImplicit false

namespace CameraAcquisition.CommandLine

/-- A command line the program refuses. -/
inductive Mistake where
  /-- A word that is not an option of its level, with perhaps a tip. -/
  | unexpected (word : String) (tip : Option String) (usage : String)
  /-- An empty value, or one that is not one of the accepted names. -/
  | refused (o : Opt) (value : String)
  /-- A value that could not be read, and why. -/
  | unreadable (o : Opt) (value : String) (reason : String)
  /-- An option given twice at one level. -/
  | repeated (o : Opt) (usage : String)
  /-- A value given to an option that takes none. -/
  | surplus (o : Opt) (value : String) (usage : String)
  /-- A word where a command was due, with the commands close to it. -/
  | unknownCommand (word : String) (similar : List String) (usage : String)
  /-- No command at all. -/
  | commandMissing
  /-- A command written after `--`. -/
  | dashBeforeCommand (word : String) (usage : String)
  /-- A word after `help` that names no command of the level it reached. -/
  | unknownTopic (word : String) (l : Level)
  deriving Repr, BEq, DecidableEq, Inhabited

/-- The text of a refusal: the message, the tips, the usage line if there is one, and, when
`hint` holds, a pointer to the help option. -/
def refusalWith (hint : Bool) (message : String) (tips : List String) (usage : Option String) :
    String :=
  let tipText := match tips with
    | [] => ""
    | _ => "\n" ++ String.join (tips.map fun t => "\n  tip: " ++ t)
  let usageText := match usage with
    | some u => "\n\nUsage: " ++ u
    | none => ""
  let hintText := if hint then "\n\nFor more information, try '--help'.\n" else "\n"
  "error: " ++ message ++ tipText ++ usageText ++ hintText

/-- The text of a refusal at a level with a help option. -/
def refusalText (message : String) (tips : List String) (usage : Option String) : String :=
  refusalWith true message tips usage

/-- The line listing accepted values, if there is a list. -/
def listLine (title : String) (values : List String) : String :=
  match values with
  | [] => ""
  | _ => "\n  [" ++ title ++ ": " ++ ", ".intercalate values ++ "]"

/-- Quotes each word in single quotes. -/
def quoted (words : List String) : String := ", ".intercalate (words.map fun w => "'" ++ w ++ "'")

namespace Mistake

/-- The text printed for a mistake. -/
def render : Mistake → String
  | unexpected word tip usage =>
    refusalText s!"unexpected argument '{word}' found" tip.toList (some usage)
  | refused o value =>
    let arg := o.shown
    let message :=
      if value.isEmpty then s!"a value is required for '{arg}' but none was supplied"
      else s!"invalid value '{value}' for '{arg}'"
    let tips := match (similarWords value o.choices).getLast? with
      | some c => [s!"a similar value exists: '{c}'"]
      | none => []
    refusalText (message ++ listLine "possible values" o.choices) tips none
  | unreadable o value reason =>
    let arg := o.shown
    refusalText s!"invalid value '{value}' for '{arg}': {reason}" [] none
  | repeated o usage =>
    let arg := o.shown
    refusalText s!"the argument '{arg}' cannot be used multiple times" [] (some usage)
  | surplus o value usage =>
    let arg := o.shown
    refusalText s!"unexpected value '{value}' for '{arg}' found; no more were expected" []
      (some usage)
  | unknownCommand word similar usage =>
    let tips := match similar with
      | [] => []
      | [c] => [s!"a similar subcommand exists: '{c}'"]
      | cs =>
        let listed := quoted cs
        [s!"some similar subcommands exist: {listed}"]
    refusalText s!"unrecognized subcommand '{word}'" tips (some usage)
  | commandMissing =>
    refusalText ("'dhyana' requires a subcommand but one was not provided" ++
      listLine "subcommands" (Sub.all.map Sub.name)) [] (some (Level.usage .top))
  | dashBeforeCommand word usage =>
    refusalText s!"unexpected argument '{word}' found"
      [s!"subcommand '{word}' exists; to use it, remove the '--' before it"] (some usage)
  | unknownTopic word l =>
    refusalWith l.hasHelpOption s!"unrecognized subcommand '{word}'" [] (some l.usage)

end Mistake

/-- Where reading a command line ends before the program runs. -/
inductive Stop where
  /-- Help or the version, printed on standard output; the program succeeds. -/
  | show (text : String)
  /-- A refusal, printed on standard error; the program fails with status 2. -/
  | reject (text : String)
  deriving Repr, BEq, DecidableEq, Inhabited

end CameraAcquisition.CommandLine
