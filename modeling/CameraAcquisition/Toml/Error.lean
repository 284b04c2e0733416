import CameraAcquisition.Text.Escape

/-!
# Errors of the TOML reader

A failure has a kind, perhaps a byte offset into the document, and the path of keys it
happened under, innermost first. Its text is the kind's message, then ` for key `a.b`` when
there is a key path, then ` at line L column C` when there is an offset. Lines and columns
count from one; a column counts bytes, so a carriage return before a line feed counts too.

## What this module delivers

- `Problem` and `Problem.message`.
- `Failure`, with `Failure.located`, `Failure.loose`, `Failure.withKey`, `Failure.placeAt`, `Failure.render`.
- `lineCol`, the line and column of a byte offset.
-/

set_option autoImplicit false

namespace CameraAcquisition.Toml

/-- What went wrong. -/
inductive Problem where
  | unexpectedEof
  | invalidCharInString (c : Char)
  | invalidEscape (c : Char)
  | invalidHexEscape (c : Char)
  | invalidEscapeValue (v : Nat)
  | newlineInString
  | unexpected (c : Char)
  | unterminatedString
  | newlineInTableKey
  | multilineStringKey
  | wanted (expected found : String)
  | numberInvalid
  | unquotedString
  | dateInvalid
  | duplicateTable (name : String)
  | redefineAsArray
  | emptyTableKey
  | dottedKeyInvalidType
  | expectedEmptyTable
  | custom (message : String)
  deriving Repr, BEq, Inhabited

namespace Problem

/-- The text of a problem. -/
def message : Problem → String
  | unexpectedEof => "unexpected eof encountered"
  | invalidCharInString c => s!"invalid character in string: `{Text.escapeChar c}`"
  | invalidEscape c => s!"invalid escape character in string: `{Text.escapeChar c}`"
  | invalidHexEscape c => s!"invalid hex escape character in string: `{Text.escapeChar c}`"
  | invalidEscapeValue v => s!"invalid escape value: `{v}`"
  | newlineInString => "newline in string found"
  | unexpected c => s!"unexpected character found: `{Text.escapeChar c}`"
  | unterminatedString => "unterminated string"
  | newlineInTableKey => "found newline in table key"
  | multilineStringKey => "multiline strings are not allowed for key"
  | wanted expected found => s!"expected {expected}, found {found}"
  | numberInvalid => "invalid number"
  | unquotedString => "invalid TOML value, did you mean to use a quoted string?"
  | dateInvalid => "invalid date"
  | duplicateTable name => s!"redefinition of table `{name}`"
  | redefineAsArray => "table redefined as array"
  | emptyTableKey => "empty table key found"
  | dottedKeyInvalidType => "dotted key attempted to extend non-table type"
  | expectedEmptyTable => "expected empty table"
  | custom m => m

end Problem

/-- A failure of the reader. -/
structure Failure where
  problem : Problem
  offset : Option Nat
  /-- The keys the failure happened under, innermost first. -/
  keys : List String
  deriving Repr, BEq, Inhabited

namespace Failure

/-- A failure at a byte offset. -/
def located (offset : Nat) (p : Problem) : Failure := ⟨p, some offset, []⟩

/-- A failure with no offset yet. -/
def loose (p : Problem) : Failure := ⟨p, none, []⟩

/-- The failure happened under one more key, outside the keys known so far. -/
def withKey (k : String) (f : Failure) : Failure := { f with keys := f.keys ++ [k] }

/-- Gives a failure without an offset the offset `o`, when there is one. -/
def placeAt (o : Option Nat) (f : Failure) : Failure :=
  match f.offset with
  | some _ => f
  | none => { f with offset := o }

end Failure

/-- Byte lengths of the lines of a text, as splitting at line feeds gives them, without the
empty piece after a final line feed. -/
def lineLengths (input : String) : List Nat :=
  let pieces := (input.splitOn "\n").map String.utf8ByteSize
  match pieces.getLast? with
  | some 0 => pieces.dropLast
  | _ => pieces

/-- Line and column, from zero, of a byte offset. An offset past the last line is at the
start of the line after it. -/
def lineCol (input : String) (offset : Nat) : Nat × Nat :=
  let lengths := lineLengths input
  let rec go : List Nat → Nat → Nat → Nat × Nat
    | [], _, _ => (lengths.length, 0)
    | len :: rest, i, cur =>
      if cur + len + 1 > offset then (i, offset - cur) else go rest (i + 1) (cur + len + 1)
  go lengths 0 0

namespace Failure

/-- The text of a failure in a document. -/
def render (input : String) (f : Failure) : String :=
  let keyPart :=
    if f.keys.isEmpty then ""
    else " for key `" ++ ".".intercalate f.keys.reverse ++ "`"
  let place :=
    match f.offset with
    | some o =>
      let (l, c) := lineCol input o
      s!" at line {l + 1} column {c + 1}"
    | none => ""
  f.problem.message ++ keyPart ++ place

end Failure

end CameraAcquisition.Toml
