import CameraAcquisition.Text.Pattern.Escape

/-!
# Bracketed classes of patterns

A class in brackets lists the characters it matches: characters as they are or escaped, ranges
`a-z` of two characters in order, the classes `\d`, `\s`, `\w` and their complements, the ASCII
classes `[:name:]` and `[:^name:]`, and nested classes, joined by the operators `&&`, `--` and
`~~`. A `^` first negates the class; any `-` that follow, and a `]` right after the `[` or the
`^`, are taken as they are, so no class is empty. A `-` before `]` or before another `-` makes
no range. In mode `x` blanks and comments are skipped inside classes as well.

What a class may hold depends on the mode. Outside Unicode mode it must match only text: each
character is ASCII, and no class, whole, nested or named, is negated, since the complement
of an ASCII set holds bytes that begin no character. In Unicode mode `\d`, `\s` and `\w` need
tables, and so does a class that matches in either case, unless it has no member at any depth:
built from nested classes and operators alone, it is empty or holds every character, and either
set matches the same in either case.

The depth of a class is how deeply its sets nest: a class sits one level above its set, a union
of several items one level above the deepest, and an operator one level above both sides.

## What this module delivers

- `seriesDepth`, the depth of a union or sequence of parts.
- `bracketed`, a class after its `[`: its depth and the rest after its `]`.
-/

set_option autoImplicit false

namespace CameraAcquisition.Text.Pattern

/-! ## Depth -/

/-- The depth of a union or sequence of parts of the given depths: none is flat, one is as deep
as itself, and several sit one level above the deepest. -/
def seriesDepth : List Nat → Nat
  | [] => 0
  | [d] => d
  | ds => 1 + ds.foldl max 0

/-- The depth of a class set: the part read last, joined to the set before an operator, if one
came, one level above both. -/
def joinDepth (before : Option Nat) (last : Nat) : Nat :=
  match before with
  | none => last
  | some d => 1 + max d last

/-! ## Items -/

/-- Names of the ASCII classes written `[:name:]`. -/
def asciiClassNames : List String :=
  ["alnum", "alpha", "ascii", "blank", "cntrl", "digit", "graph", "lower", "print", "punct",
    "space", "upper", "word", "xdigit"]

/-- An ASCII class `[:name:]` or `[:^name:]` after its `[`, if the text holds one: whether it is
negated, and the rest. -/
def asciiClass : List Char → Option (Bool × List Char)
  | ':' :: cs =>
    let (negated, body) := match cs with
      | '^' :: more => (true, more)
      | _ => (false, cs)
    let name := String.ofList (body.takeWhile (· ≠ ':'))
    match body.dropWhile (· ≠ ':') with
    | ':' :: ']' :: after => if asciiClassNames.contains name then some (negated, after) else none
    | _ => none
  | _ => none

/-- Whether a class may hold an escape in a mode: outside Unicode mode only ASCII characters and
the classes `\d`, `\s`, `\w`, in Unicode mode every character; positions never. -/
def Escape.fitsClass (mode : Mode) : Escape → Bool
  | .char n | .byte n => mode.unicode || n < 0x80
  | .perl complement => !mode.unicode && !complement
  | .boundary | .anchor => false

/-- One item of a class: an escape or a character as it is. -/
def classItem (mode : Mode) (fuel : Nat) : List Char → Option (Escape × List Char)
  | '\\' :: cs => escape mode fuel cs
  | c :: cs => some (.char c.toNat, cs)
  | [] => none

/-- One member of a class, from its first character on: an item, or a range of two characters
in order. The rest follows the member. -/
def classMember (mode : Mode) (fuel : Nat) (cs : List Char) : Option (List Char) := do
  let (first, rest) ← classItem mode fuel cs
  match mode.skip rest with
  | [] => none
  | '-' :: more =>
    let ahead := mode.peekAfter ('-' :: more)
    if ahead == some ']' || ahead == some '-' then
      if first.fitsClass mode then some ('-' :: more) else none
    else
      match mode.skip more with
      | [] => none
      | more => do
        let (last, after) ← classItem mode fuel more
        let lo ← first.code?
        let hi ← last.code?
        if lo ≤ hi && first.fitsClass mode && last.fitsClass mode then some after else none
  | rest => if first.fitsClass mode then some rest else none

/-! ## Classes -/

/-- The `-` that open a class, each taken as it is with the blanks after it: how many there
are, and the rest. -/
def leadingDashes (mode : Mode) : Nat → Nat → List Char → Option (Nat × List Char)
  | 0, _, _ => none
  | fuel + 1, n, '-' :: cs =>
    match mode.skip cs with
    | [] => none
    | rest => leadingDashes mode fuel (n + 1) rest
  | _ + 1, n, cs => some (n, cs)

/-- The start of a class after its `[`: whether `^` negates it, how many items open it as they
are (any `-`, then, when none came, a `]`), and the rest. -/
def classStart (mode : Mode) (fuel : Nat) (cs : List Char) : Option (Bool × Nat × List Char) := do
  let (negated, cs) ← match mode.skip cs with
    | [] => none
    | '^' :: more =>
      match mode.skip more with
      | [] => none
      | rest => some (true, rest)
    | rest => some (false, rest)
  let (dashes, cs) ← leadingDashes mode fuel 0 cs
  if dashes == 0 then
    match cs with
    | ']' :: more =>
      match mode.skip more with
      | [] => none
      | rest => some (negated, 1, rest)
    | _ => some (negated, 0, cs)
  else some (negated, dashes, cs)

/-- Reads the items of a class up to the `]` that closes it. `before` is the depth of the set
before the last operator, if one came, `items` the depths of the items read since, last first,
and `filled` whether the class has a member: a character, a range, a class such as `\d` or an
ASCII class, here or in a nested class. Nested classes and operators alone build only the empty
set and the set of all characters, which match the same in either case. The answer is the depth
of the class's set, whether it has a member, and the rest after its `]`. -/
def classBody (mode : Mode) : Nat → Option Nat → List Nat → Bool → List Char →
    Option (Nat × Bool × List Char)
  | 0, _, _, _, _ => none
  | fuel + 1, before, items, filled, cs =>
    match mode.skip cs with
    | [] => none
    | ']' :: after => some (joinDepth before (seriesDepth items), filled, after)
    | '[' :: more =>
      match asciiClass more with
      | some (negated, after) =>
        if !mode.unicode && negated then none
        else classBody mode fuel before (0 :: items) true after
      | none => do
        let (negated, opening, start) ← classStart mode fuel more
        if !mode.unicode && negated then none
        let (depth, inner, after) ←
          classBody mode fuel none (List.replicate opening 0) (opening > 0) start
        if mode.unicode && mode.caseless && inner then none
        classBody mode fuel before ((depth + 1) :: items) (filled || inner) after
    | '&' :: '&' :: after | '-' :: '-' :: after | '~' :: '~' :: after =>
      classBody mode fuel (some (joinDepth before (seriesDepth items))) [] filled after
    | rest => do
      let after ← classMember mode fuel rest
      classBody mode fuel before (0 :: items) true after

/-- Reads a class after its `[`: its depth and the rest after its `]`, or `none` when it is
malformed or may not stand in the mode. -/
def bracketed (mode : Mode) (fuel : Nat) (cs : List Char) : Option (Nat × List Char) := do
  let (negated, opening, start) ← classStart mode fuel cs
  if !mode.unicode && negated then none
  let (depth, filled, after) ←
    classBody mode fuel none (List.replicate opening 0) (opening > 0) start
  if mode.unicode && mode.caseless && filled then none
  some (depth + 1, after)

end CameraAcquisition.Text.Pattern
