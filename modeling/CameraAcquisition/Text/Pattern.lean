import CameraAcquisition.Text.Alphanumeric
import CameraAcquisition.Text.Pattern.Class

/-!
# Pattern syntax

Which texts are well-formed regular expressions, and which of those a deterministic automaton
built without Unicode tables can run. The syntax is the usual one: alternation with `|`, groups
`(…)`, `(?:…)`, `(?flags)`, `(?flags:…)` and named groups `(?P<name>…)` or `(?<name>…)`, the
repetitions `*`, `+`, `?`, `{n}`, `{n,}` and `{n,m}` (each perhaps lazy with a trailing `?`),
classes in brackets, escapes, `.`, `^` and `$`.

A text is malformed when a group is left open, a `)` closes nothing, a repetition has nothing
to repeat, a counted repetition is unclosed, empty or backwards, a group's flags are unknown,
repeated or end in `-`, a name is invalid or used twice, it looks around (`(?=`, `(?!`,
`(?<=`, `(?<!`), or an escape or class is malformed. A name starts with `_` or an alphabetic
character and goes on with alphanumeric characters, `_`, `.`, `[` and `]`. Counts allow white
space around their digits in every mode.

A pattern is refused as well when it nests more than `nestLimit` levels deep, or when a part
may not stand in its mode: outside Unicode mode `.`, a two-digit `\x` code above 127 and the
complements `\D`, `\S`, `\W` could match a byte that begins no character; in Unicode mode
`\d`, `\s` and `\w` need tables, and so does every character matched in either case.

Flags set by `(?flags)` hold to the end of the enclosing group, across its alternatives.

A word boundary read in Unicode mode asks which characters around a position are letters,
which a deterministic automaton cannot see byte by byte; a pattern that holds one is
well-formed but cannot be run that way.

## What this module delivers

- `Pattern.read`, what reading a text finds: `none` when it is malformed or refused, otherwise
  whether it holds a word boundary read in Unicode mode.
- `Pattern.isWellFormed`, whether a text is a well-formed regular expression.
-/

set_option autoImplicit false

namespace CameraAcquisition.Text.Pattern

/-! ## Groups -/

/-- What a `(` opens. -/
inductive Opening where
  /-- A group read in the given mode, perhaps named, closed by a later `)`. -/
  | group (inner : Mode) (name : Option String)
  /-- Flags that give the mode for the rest of the enclosing group, with nothing to close. -/
  | flags (next : Mode)
  deriving Repr, BEq, DecidableEq, Inhabited

/-- Flags after `(?`, up to `:` or `)`: known letters, each once, and at most one `-`, which
must not come last; `(?)` is empty and malformed. Each letter sets its flag, or clears it
after the `-`. -/
def groupFlags (mode : Mode) (seen : List Char) (negated lastNegation : Bool) :
    List Char → Option (Opening × List Char)
  | [] => none
  | ':' :: after => if lastNegation then none else some (.group mode none, after)
  | ')' :: after =>
    if lastNegation || (seen.isEmpty && !negated) then none else some (.flags mode, after)
  | '-' :: after => if negated then none else groupFlags mode seen true true after
  | c :: after =>
    if "imsUuxR".toList.contains c && !seen.contains c then
      groupFlags (mode.set c !negated) (c :: seen) negated false after
    else none

/-- Whether a text is a valid group name: `_` or an alphabetic character first, then
alphanumeric characters, `_`, `.`, `[` and `]`. -/
def isGroupName : List Char → Bool
  | [] => false
  | c :: cs =>
    (c == '_' || isAlphabetic c) && cs.all fun d => "_.[]".toList.contains d || isAlphanumeric d

/-- A group name after `(?P<` or `(?<`, up to its `>`; the group keeps the mode. -/
def groupName (mode : Mode) (cs : List Char) : Option (Opening × List Char) :=
  let name := cs.takeWhile (· ≠ '>')
  match cs.dropWhile (· ≠ '>') with
  | '>' :: after =>
    if isGroupName name then some (.group mode (some (String.ofList name)), after) else none
  | _ => none

/-- What follows a `(` read in a mode, blanks after it skipped. -/
def opening (mode : Mode) (cs : List Char) : Option (Opening × List Char) :=
  match mode.skip cs with
  | '?' :: '=' :: _ | '?' :: '!' :: _ | '?' :: '<' :: '=' :: _ | '?' :: '<' :: '!' :: _ => none
  | '?' :: 'P' :: '<' :: rest => groupName mode rest
  | '?' :: '<' :: rest => groupName mode rest
  | '?' :: rest => groupFlags mode [] false false rest
  | rest => some (.group mode none, rest)

/-! ## Repetitions -/

/-- Skips the `?` that makes a repetition lazy. -/
def lazy : List Char → List Char
  | '?' :: cs => cs
  | cs => cs

/-- Decimal digits from the first character on, blanks after each skipped; the digits read so
far are kept last first. -/
def digitRun (mode : Mode) : Nat → List Char → List Char → Option (List Char × List Char)
  | 0, _, _ => none
  | _ + 1, digits, [] => some (digits.reverse, [])
  | fuel + 1, digits, c :: cs =>
    if c.isDigit then digitRun mode fuel (c :: digits) (mode.skip cs)
    else some (digits.reverse, c :: cs)

/-- Drops white space, each character with the blanks after it. -/
def trailingSpace (mode : Mode) : Nat → List Char → Option (List Char)
  | 0, _ => none
  | _ + 1, [] => some []
  | fuel + 1, c :: cs =>
    if isWhiteSpace c then trailingSpace mode fuel (mode.skip cs) else some (c :: cs)

/-- A count of a repetition: white space, decimal digits, white space; at most 2^32 - 1. -/
def count (mode : Mode) (fuel : Nat) (cs : List Char) : Option (Nat × List Char) := do
  let (digits, rest) ← digitRun mode fuel [] (cs.dropWhile isWhiteSpace)
  let rest ← trailingSpace mode fuel rest
  let n := digits.foldl (fun acc c => 10 * acc + (c.toNat - '0'.toNat)) 0
  if digits.isEmpty || n ≥ Nat.pow 2 32 then none else some (n, rest)

/-- A counted repetition from its `{`: `{n}`, `{n,}` or `{n,m}` with `n ≤ m`, perhaps lazy. -/
def counted (mode : Mode) (fuel : Nat) (cs : List Char) : Option (List Char) := do
  let rest := mode.advance cs
  if rest.isEmpty then none
  let (low, rest) ← count mode fuel rest
  let rest ← match rest with
    | [] => none
    | ',' :: more =>
      match mode.skip more with
      | [] => none
      | '}' :: after => some ('}' :: after)
      | more => do
        let (high, after) ← count mode fuel more
        if low ≤ high then some after else none
    | rest => some rest
  match rest with
  | '}' :: after => some (lazy (mode.skip after))
  | _ => none

/-! ## Reading a pattern -/

/-- What reading a well-formed part of a pattern finds. -/
structure Shape where
  /-- How deeply its groups, repetitions, sequences, alternatives and classes nest. -/
  depth : Nat
  /-- Whether it holds a word boundary read in Unicode mode. -/
  unicodeBoundary : Bool
  deriving Repr, BEq, DecidableEq, Inhabited

/-- The state of reading one group: the depths of its finished alternatives and of the items
of the current one, last first, whether the last item can take a repetition, whether a word
boundary read in Unicode mode came, and the names of the groups so far. -/
structure Reading where
  branches : List Nat
  items : List Nat
  repeatable : Bool
  boundary : Bool
  names : List String
  deriving Repr, BEq, DecidableEq, Inhabited

namespace Reading

/-- Nothing read yet, with the names of the groups so far. -/
def start (names : List String) : Reading := ⟨[], [], false, false, names⟩

/-- The reading with one more item of a given depth, which can take a repetition. -/
def push (r : Reading) (depth : Nat) : Reading :=
  { r with items := depth :: r.items, repeatable := true }

/-- The reading whose last item takes a repetition, one level deeper, if it can. -/
def repeatLast (r : Reading) : Option Reading :=
  match r.items with
  | d :: ds => if r.repeatable then some { r with items := (d + 1) :: ds } else none
  | [] => none

/-- What the group read so far is: its alternatives as a series of sequences. -/
def shape (r : Reading) : Shape :=
  ⟨seriesDepth (seriesDepth r.items :: r.branches), r.boundary⟩

end Reading

/-- Whether an escape may stand outside a class in a mode: a character needs no case tables,
a two-digit `\x` code outside Unicode mode is ASCII, and `\d`, `\s`, `\w` stand only outside
Unicode mode, without their complements. -/
def Escape.fitsOutside (mode : Mode) : Escape → Bool
  | .char _ => !(mode.unicode && mode.caseless)
  | .byte n => if mode.unicode then !mode.caseless else n < 0x80
  | .perl complement => !mode.unicode && !complement
  | .boundary | .anchor => true

/-- Reads the rest of a group in a mode, up to the `)` that closes it or the end of the text:
what the group is, the names of the groups so far, and the rest from that `)` on. The answer
is `none` when the text is malformed or a part may not stand in its mode. -/
def sequence : Nat → Mode → Reading → List Char → Option (Shape × List String × List Char)
  | 0, _, _, _ => none
  | fuel + 1, mode, r, cs =>
    match mode.skip cs with
    | [] => some (r.shape, r.names, [])
    | ')' :: more => some (r.shape, r.names, ')' :: more)
    | '(' :: more => do
      match ← opening mode more with
      | (.flags next, after) =>
        sequence fuel next { r with items := 0 :: r.items, repeatable := false } after
      | (.group inner name, after) =>
        let names ← match name with
          | none => some r.names
          | some n => if r.names.contains n then none else some (n :: r.names)
        let (shape, names, rest) ← sequence fuel inner (Reading.start names) after
        match rest with
        | ')' :: after =>
          sequence fuel mode
            { r.push (shape.depth + 1) with
              names, boundary := r.boundary || shape.unicodeBoundary } after
        | _ => none
    | '|' :: more =>
      sequence fuel mode
        { r with branches := seriesDepth r.items :: r.branches, items := [], repeatable := false }
        more
    | '[' :: more => do
      let (depth, after) ← bracketed mode fuel more
      sequence fuel mode (r.push depth) after
    | '*' :: more | '+' :: more | '?' :: more => do
      let r ← r.repeatLast
      sequence fuel mode r (lazy more)
    | '{' :: more => do
      let r ← r.repeatLast
      let after ← counted mode fuel ('{' :: more)
      sequence fuel mode r after
    | '\\' :: more => do
      let (e, after) ← escape mode fuel more
      if !e.fitsOutside mode then none
      sequence fuel mode
        { r.push 0 with boundary := r.boundary || (mode.unicode && e == .boundary) } after
    | '.' :: more => if mode.unicode then sequence fuel mode (r.push 0) more else none
    | '^' :: more | '$' :: more => sequence fuel mode (r.push 0) more
    | _ :: more =>
      if mode.unicode && mode.caseless then none else sequence fuel mode (r.push 0) more

/-- The deepest nesting a pattern may have. -/
def nestLimit : Nat := 250

/-- What reading a text finds: `none` when it is malformed or refused, otherwise whether it
holds a word boundary read in Unicode mode. -/
def read (s : String) : Option Bool :=
  match sequence (s.length + 1) Mode.initial (Reading.start []) s.toList with
  | some (shape, _, []) => if shape.depth > nestLimit then none else some shape.unicodeBoundary
  | _ => none

/-- Whether a text is a well-formed regular expression. -/
def isWellFormed (s : String) : Bool := (read s).isSome

end CameraAcquisition.Text.Pattern
