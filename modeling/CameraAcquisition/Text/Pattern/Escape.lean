import CameraAcquisition.Text.WhiteSpace

/-!
# Reading modes and escapes of patterns

The flags that decide how the rest of a group reads, and the escapes a backslash starts.

Three flags matter here. In Unicode mode (`u`, on at the start) a pattern matches characters;
without it, it matches bytes and must still match only text. With `i` letters match in either
case. With `x` white space is skipped and `#` starts a comment that runs to the end of its
line: between the items of a pattern, inside classes, and between the digits of codes and
counts.

The matcher is built without Unicode tables. Whatever would need one is refused: property
classes, the classes `\d`, `\s`, `\w` in Unicode mode, and matching in either case in Unicode
mode. Escapes are known for the meta characters, for every other ASCII character that is not a
letter, a digit, `<` or `>`, for `\d \s \w` (and capitals), for codes after `\x`, `\u` and `\U`
(in braces or as two, four or eight digits), for `\a \f \t \n \r \v`, and for the positions
`\A \z \b \B \< \>` with the word boundaries `\b{start}`, `\b{end}`, `\b{start-half}` and
`\b{end-half}`. A digit after a backslash would be a back-reference and is refused.

## What this module delivers

- `Mode`, with `Mode.set`, `Mode.skip` (blanks and comments in mode `x`) and `Mode.peekAfter`.
- `Escape` and `escape`, what an escape stands for.
-/

set_option autoImplicit false

namespace CameraAcquisition.Text.Pattern

/-! ## Modes -/

/-- The flags that decide how the rest of a group reads and what it may match. -/
structure Mode where
  /-- Unicode mode, the flag `u`: the pattern matches characters rather than bytes. -/
  unicode : Bool
  /-- The flag `i`: letters match in either case. -/
  caseless : Bool
  /-- The flag `x`: white space and `#` comments are skipped. -/
  extended : Bool
  deriving Repr, BEq, DecidableEq, Inhabited

namespace Mode

/-- How a pattern reads at its start: in Unicode mode, case and blanks counting. -/
def initial : Mode := ⟨true, false, false⟩

/-- The mode after one flag, set or cleared; the flags `m`, `s`, `U` and `R` change neither
what is well-formed nor what the automaton can run. -/
def set (mode : Mode) (flag : Char) (on : Bool) : Mode :=
  match flag with
  | 'u' => { mode with unicode := on }
  | 'i' => { mode with caseless := on }
  | 'x' => { mode with extended := on }
  | _ => mode

end Mode

/-! ## Blanks and comments -/

/-- Drops white space and comments from the front of a text; `inComment` says whether the text
starts inside a comment, which ends after its line feed. -/
def dropBlanks : Bool → List Char → List Char
  | _, [] => []
  | true, c :: cs => dropBlanks (c != '\n') cs
  | false, c :: cs =>
    if isWhiteSpace c then dropBlanks false cs
    else if c == '#' then dropBlanks true cs
    else c :: cs

/-- The first character that a look past white space finds, where one `#` is passed over as
well once `seenHash` is off; the rest of a comment is not skipped. -/
def firstShown : Bool → List Char → Option Char
  | _, [] => none
  | seenHash, c :: cs =>
    if isWhiteSpace c then firstShown seenHash cs
    else if !seenHash && c == '#' then firstShown true cs
    else some c

namespace Mode

/-- The text from its first character that counts: in mode `x` blanks and comments are
skipped. -/
def skip (mode : Mode) (cs : List Char) : List Char :=
  if mode.extended then dropBlanks false cs else cs

/-- The text after its first character and the blanks that follow it. -/
def advance (mode : Mode) (cs : List Char) : List Char := mode.skip cs.tail

/-- The character that a look past the first one finds. In mode `x` the look passes white space
and one `#`, and when nothing else follows it finds the character right after the first. -/
def peekAfter (mode : Mode) : List Char → Option Char
  | [] => none
  | _ :: cs =>
    if mode.extended then
      match firstShown false cs with
      | some c => some c
      | none => cs.head?
    else cs.head?

end Mode

/-! ## Escapes -/

/-- Characters with a meaning of their own, which a backslash makes plain. -/
def isMeta (c : Char) : Bool := "\\.+*?()|[]\x7b\x7d^$#&-~".toList.contains c

/-- Characters that a backslash turns into themselves: the meta characters and every other
ASCII character that is not a letter, a digit, `<` or `>`. -/
def isEscapable (c : Char) : Bool :=
  isMeta c || (c.toNat < 0x80 && !c.isAlphanum && c != '<' && c != '>')

/-- The value of a hexadecimal digit. -/
def hexDigit? (c : Char) : Option Nat :=
  if c.isDigit then some (c.toNat - '0'.toNat)
  else if 'a' ≤ c && c ≤ 'f' then some (c.toNat - 'a'.toNat + 10)
  else if 'A' ≤ c && c ≤ 'F' then some (c.toNat - 'A'.toNat + 10)
  else none

/-- The value of a string of hexadecimal digits, if every character is one. -/
def hexValue? (cs : List Char) : Option Nat :=
  cs.foldlM (fun acc c => (hexDigit? c).map fun d => 16 * acc + d) 0

/-- Whether a number is the code of a character: at most U+10FFFF and no surrogate. -/
def isScalar (n : Nat) : Bool := n ≤ 0x10FFFF && !(0xD800 ≤ n && n ≤ 0xDFFF)

/-- What an escape stands for. -/
inductive Escape where
  /-- One character, by its code. -/
  | char (code : Nat)
  /-- One character by its code as two digits after `\x`, which outside Unicode mode is a
  byte. -/
  | byte (code : Nat)
  /-- One of the classes `\d`, `\s`, `\w`, or their complements `\D`, `\S`, `\W`. -/
  | perl (complement : Bool)
  /-- A word boundary, such as `\b` or `\<`. -/
  | boundary
  /-- Another position, `\A` or `\z`. -/
  | anchor
  deriving Repr, BEq, DecidableEq, Inhabited

/-- The code of the character an escape stands for, if it stands for one. -/
def Escape.code? : Escape → Option Nat
  | .char n | .byte n => some n
  | _ => none

/-- The digits of a code in braces, read from the `{` or from the last digit read: each step
passes that character and the blanks after it, and the braces close at `}`. The digits read so
far are kept last first; the rest follows the `}` and its blanks. -/
def bracedDigits (mode : Mode) : Nat → List Char → List Char → Option (List Char × List Char)
  | 0, _, _ => none
  | fuel + 1, digits, cs =>
    match mode.advance cs with
    | [] => none
    | '}' :: rest => some (digits.reverse, mode.skip rest)
    | c :: rest =>
      if (hexDigit? c).isSome then bracedDigits mode fuel (c :: digits) (c :: rest) else none

/-- Exactly `count` hexadecimal digits from the first character on, blanks between them
skipped; the rest follows the last digit and its blanks. -/
def fixedDigits (mode : Mode) : Nat → List Char → Option (List Char × List Char)
  | 0, cs => some ([], cs)
  | _ + 1, [] => none
  | count + 1, c :: cs =>
    if (hexDigit? c).isNone then none
    else if count == 0 then some ([c], mode.skip cs)
    else match mode.skip cs with
      | [] => none
      | rest => (fixedDigits mode count rest).map fun (ds, after) => (c :: ds, after)

/-- A character given by hexadecimal code after `\x`, `\u` or `\U`, blanks after the letter
skipped: in braces, or as exactly `width` digits. The answer says whether braces held it, and
gives its code and the rest. -/
def hexCode (mode : Mode) (fuel width : Nat) (cs : List Char) :
    Option (Bool × Nat × List Char) :=
  match mode.skip cs with
  | [] => none
  | '{' :: more => do
    let (digits, rest) ← bracedDigits mode fuel [] ('{' :: more)
    let n ← hexValue? digits
    if digits.isEmpty || !isScalar n then none else some (true, n, rest)
  | more => do
    let (digits, rest) ← fixedDigits mode width more
    let n ← hexValue? digits
    if isScalar n then some (false, n, rest) else none

/-- Whether a character may stand in the kind of a word boundary: an ASCII letter or `-`. -/
def isKindChar (c : Char) : Bool := c.isAlpha || c == '-'

/-- The kind of a word boundary in braces, from its first character on: kind characters, each
with the blanks after it, then `}`. The characters read so far are kept last first. -/
def boundaryKind (mode : Mode) : Nat → List Char → List Char → Option (List Char × List Char)
  | 0, _, _ => none
  | _ + 1, _, [] => none
  | fuel + 1, kind, c :: cs =>
    if isKindChar c then boundaryKind mode fuel (c :: kind) (mode.skip cs)
    else if c == '}' then some (kind.reverse, cs)
    else none

/-- The word boundary after `\b`. Braces whose first character that counts is a kind character
hold its kind, `start`, `end`, `start-half` or `end-half`; other braces belong to a repetition
and stay. -/
def boundaryEscape (mode : Mode) (fuel : Nat) : List Char → Option (Escape × List Char)
  | '{' :: cs =>
    match mode.skip cs with
    | [] => none
    | c :: more =>
      if !isKindChar c then some (.boundary, '{' :: cs)
      else do
        let (kind, rest) ← boundaryKind mode fuel [] (c :: more)
        if ["start", "end", "start-half", "end-half"].contains (String.ofList kind) then
          some (.boundary, rest)
        else none
  | cs => some (.boundary, cs)

/-- Reads an escape after its backslash: what it stands for, and the rest of the text. Digits,
which would be back-references, and property classes `\p`, `\P`, which need tables, are
refused, as are letters with no meaning. -/
def escape (mode : Mode) (fuel : Nat) : List Char → Option (Escape × List Char)
  | [] => none
  | c :: cs =>
    if c.isDigit || c == 'p' || c == 'P' then none
    else if c == 'x' then
      (hexCode mode fuel 2 cs).map fun (braced, n, rest) =>
        (if braced then .char n else .byte n, rest)
    else if c == 'u' then (hexCode mode fuel 4 cs).map fun (_, n, rest) => (.char n, rest)
    else if c == 'U' then (hexCode mode fuel 8 cs).map fun (_, n, rest) => (.char n, rest)
    else if "dsw".toList.contains c then some (.perl false, cs)
    else if "DSW".toList.contains c then some (.perl true, cs)
    else if isEscapable c then some (.char c.toNat, cs)
    else match c with
      | 'a' => some (.char 7, cs)
      | 'f' => some (.char 12, cs)
      | 't' => some (.char 9, cs)
      | 'n' => some (.char 10, cs)
      | 'r' => some (.char 13, cs)
      | 'v' => some (.char 11, cs)
      | 'A' | 'z' => some (.anchor, cs)
      | 'B' | '<' | '>' => some (.boundary, cs)
      | 'b' => boundaryEscape mode fuel cs
      | _ => none

end CameraAcquisition.Text.Pattern
