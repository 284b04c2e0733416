import CameraAcquisition.CommandLine.Options
import CameraAcquisition.Text.Pattern
import CameraAcquisition.Text.Reading

/-!
# Log filter settings

The program takes its log filter from the environment: a comma-separated list of
directives. When the setting is absent or empty the filter is `info`. Each directive is a
level alone (`debug`, `3`), or a target, then perhaps a span in brackets, then perhaps `=`
and a level (`camera=trace`, `camera[run]=debug`). A directive that cannot be read is left
out, with a warning on standard error; the others decide which events are logged.

Logged events carry wall-clock times and go to standard output and the log file; they are
not modelled. Only the warnings are, since they are the filter's whole effect on standard
error.

## What this module delivers

- `LogLevel` and `LogLevel.ofText?`, the level a word names.
- `DirectiveProblem` and `directiveProblem?`, why a directive cannot be read.
- `filterWarnings`, the warnings printed for a filter setting.
-/

set_option autoImplicit false

namespace CameraAcquisition.CommandLine

/-- How much is logged, from nothing to everything. -/
inductive LogLevel where
  | off
  | error
  | warn
  | info
  | debug
  | trace
  deriving Repr, BEq, DecidableEq, Inhabited

namespace LogLevel

/-- The level of a number from 0 (`off`) to 5 (`trace`). -/
def ofNumber? : Nat → Option LogLevel
  | 0 => some .off
  | 1 => some .error
  | 2 => some .warn
  | 3 => some .info
  | 4 => some .debug
  | 5 => some .trace
  | _ => none

/-- A decimal number with perhaps a leading plus sign. -/
def readNumber? (s : String) : Option Nat :=
  let digits := match s.toList with
    | '+' :: rest => rest
    | cs => cs
  if !digits.isEmpty && digits.all Char.isDigit then
    some (digits.foldl (fun n c => 10 * n + (c.toNat - '0'.toNat)) 0)
  else none

/-- The level a word names: a number from 0 to 5, a level's name in any case, or the empty
word, which names `error`. -/
def ofText? (s : String) : Option LogLevel :=
  match readNumber? s >>= ofNumber? with
  | some l => some l
  | none =>
    let names : List (String × LogLevel) :=
      [("", .error), ("error", .error), ("warn", .warn), ("info", .info), ("debug", .debug),
        ("trace", .trace), ("off", .off)]
    (names.find? fun (name, _) => s.toLower == name).map Prod.snd

end LogLevel

/-- Why a directive cannot be read. -/
inductive DirectiveProblem where
  /-- The directive does not have the shape of one. -/
  | malformed
  /-- The text taken as the level names none. -/
  | level
  /-- A field's value is neither a boolean, a number nor a well-formed pattern. -/
  | field
  /-- A field's value is a pattern with a word boundary read in Unicode mode, which the
  automaton that runs field patterns cannot follow. -/
  | wordBoundary
  deriving Repr, BEq, DecidableEq, Inhabited

/-- The text of a problem. -/
def DirectiveProblem.message : DirectiveProblem → String
  | .malformed => "invalid filter directive"
  | .level =>
    "error parsing level filter: expected one of \"off\", \"error\", \"warn\", \"info\", " ++
      "\"debug\", \"trace\", or a number 0-5"
  | .field => "invalid field filter: error building NFA"
  | .wordBoundary =>
    "invalid field filter: unsupported regex feature for DFAs: cannot build DFAs for " ++
      "regexes with Unicode word boundaries; switch to ASCII word boundaries, or " ++
      "heuristically enable Unicode word boundaries or use a different regex engine"

/-- Whether a directive, blanks trimmed, is a level alone: a level's name in any case or one
digit from 0 to 5. -/
def isLevelAlone (t : String) : Bool :=
  ["off", "error", "warn", "info", "debug", "trace"].contains t.toLower ||
    (t.length == 1 && t.all fun c => '0' ≤ c && c ≤ '5')

/-- Whether a directive may start with a character: an alphanumeric character, `_`, `-`, `:`
or `[`. -/
def isDirectiveStart (c : Char) : Bool :=
  Text.isAlphanumeric c || c == '_' || c == '-' || c == ':' || c == '['

/-- The problem of a field filter, `name` or `name=value`: a value that is not `true`,
`false` or a number must be a well-formed pattern, and one without a word boundary read in
Unicode mode, since field patterns run on a deterministic automaton. -/
def fieldProblem? (field : List Char) : Option DirectiveProblem :=
  match (String.ofList field).splitOn "=" with
  | _ :: value :: _ =>
    if value == "true" || value == "false" || (Text.readFloat value).toBool then none
    else match Text.Pattern.read value with
      | none => some .field
      | some true => some .wordBoundary
      | some false => none
  | _ => none

/-- The problem of a span that opens at the `[` at `opening` of the trimmed directive
`trimmed`, and where the rest of the directive starts after it. The span's name runs to the
first `]`, which closes it, or to the first `{`. Braces must close and hold a field, which is
taken from the untrimmed directive `whole` at the same places and checked at once; then a `]`
must follow the `}` straight away. -/
def spanEnd (whole trimmed : List Char) (opening : Nat) : Except DirectiveProblem Nat :=
  let inner := trimmed.drop (opening + 1)
  match inner.findIdx? (fun c => c == ']' || c == '{') with
  | none => .error .malformed
  | some stop =>
    if inner[stop]? == some ']' then .ok (opening + stop + 2)
    else
      let inside := inner.drop (stop + 1)
      match inside.findIdx? (· == '}') with
      | none => .error .malformed
      | some length =>
        if length == 0 then .error .malformed
        else match fieldProblem? ((whole.drop (opening + stop + 2)).take length) with
          | some p => .error p
          | none =>
            match inside.drop (length + 1) with
            | ']' :: _ => .ok (opening + stop + length + 4)
            | _ => .error .malformed

/-- The problem of what follows the target and span, which starts at `place` of the trimmed
directive `trimmed`: nothing, or `=` and a level, which is read from the untrimmed directive
`whole` at the same place. -/
def levelProblem? (whole trimmed : List Char) (place : Nat) : Option DirectiveProblem :=
  match trimmed.drop place with
  | [] => none
  | '=' :: _ => if (LogLevel.ofText? (String.ofList (whole.drop (place + 1)))).isSome then none
    else some .level
  | _ => some .malformed

/-- Why a directive cannot be read, if it cannot.

The directive is read with its white space trimmed. A level alone is read first. Otherwise it
starts with an alphanumeric character, `_`, `-`, `:` or `[`. A `[` before the first `=` opens a
span (see `spanEnd`); after it the directive ends, or `=` and a level follow. Without a
span the target runs to the first `=`, and a level follows it. Fields and levels are read from
the untrimmed directive at the places where they stand in the trimmed one, so with white space
before the directive that text is shifted. -/
def directiveProblem? (d : String) : Option DirectiveProblem :=
  let whole := d.toList
  let trimmed := (Text.trimWhiteSpace d).toList
  if isLevelAlone (String.ofList trimmed) then none
  else match trimmed with
    | [] => some .malformed
    | c :: _ =>
      if !isDirectiveStart c then some .malformed
      else
        let equals := trimmed.findIdx? (· == '=')
        let span := match trimmed.findIdx? (· == '['), equals with
          | some i, some e => if i < e then some i else none
          | some i, none => some i
          | none, _ => none
        match span with
        | none => levelProblem? whole trimmed (equals.getD trimmed.length)
        | some opening =>
          match spanEnd whole trimmed opening with
          | .error p => some p
          | .ok place => levelProblem? whole trimmed place

/-- The warnings printed for a filter setting: one line for each directive left out. An
absent or empty setting stands for `info`, which has none. -/
def filterWarnings (setting : Option String) : String :=
  match setting with
  | none => ""
  | some spec =>
    let directives := (spec.splitOn ",").filter (· ≠ "")
    String.join (directives.filterMap fun d =>
      (directiveProblem? d).map fun p => "ignoring `" ++ d ++ "`: " ++ p.message ++ "\n")

end CameraAcquisition.CommandLine
