import CameraAcquisition.Toml.Lexer
import CameraAcquisition.Text.Reading

/-!
# Reading a TOML document into tables

A document is read line by line into a list of tables. The first table holds the key/value
lines before any header and is present only when there are such lines; each `[a.b]` or
`[[a.b]]` header starts a new table with its header keys and an empty list of values. A
dotted key `a.b = v` files `v` under a dotted table `a`, made on first use, in the current
table; extending a key that holds anything but a dotted table is an error at that value.

Values are strings, integers (decimal with sign and underscores, or `0x`, `0o`, `0b`),
floats (a fraction, an exponent, `inf`, `nan`), booleans, date-times (kept as text), arrays
and inline tables. Every value keeps the byte span it was read from; for a float with a
fraction the span starts after the point.

Errors are positioned by byte offset, as the reader meets them; a failure of the lexer shows
only when the reader gets to it.

## What this module delivers

- `Span`, `Value` with `Value.start` and `Value.typeName`, `Table`.
- `readTables`, the list of tables of a document.
-/

set_option autoImplicit false

namespace CameraAcquisition.Toml

/-- Byte offsets of a value in the document. -/
structure Span where
  start : Nat
  stop : Nat
  deriving Repr, BEq, DecidableEq, Inhabited

/-- A value of the document. -/
inductive Value where
  | integer (i : Int) (span : Span)
  | float (f : Float) (span : Span)
  | boolean (b : Bool) (span : Span)
  | string (s : String) (span : Span)
  | datetime (s : String) (span : Span)
  | array (items : List Value) (span : Span)
  | inlineTable (entries : List (String × Value)) (span : Span)
  | dottedTable (entries : List (String × Value)) (span : Span)
  deriving Inhabited

namespace Value

/-- Where a value was read. -/
def span : Value → Span
  | integer _ s | float _ s | boolean _ s | string _ s | datetime _ s | array _ s
  | inlineTable _ s | dottedTable _ s => s

/-- The offset a value starts at. -/
def start (v : Value) : Nat := v.span.start

/-- How messages name the type of a value. -/
def typeName : Value → String
  | integer .. => "integer"
  | float .. => "float"
  | boolean .. => "boolean"
  | string .. => "string"
  | datetime .. => "datetime"
  | array .. => "array"
  | inlineTable .. => "inline table"
  | dottedTable .. => "dotted table"

end Value

/-- A table of the document: where its header starts, its header keys, its values (taken
away once read), and whether it is an element of an array of tables. -/
structure Table where
  offset : Nat
  header : List String
  values : Option (List (String × Value))
  array : Bool
  deriving Inhabited

/-- Replaces the first entry under key `k`. -/
def replaceFirst (k : String) (v : Value) : List (String × Value) → List (String × Value)
  | [] => []
  | (k2, v2) :: rest => if k2 = k then (k, v) :: rest else (k2, v2) :: replaceFirst k v rest

/-- Files a value under a dotted key. A key part that holds anything but a dotted table
cannot be extended; the error is the offset of what it holds. -/
def insertDotted : List String → Value → List (String × Value) →
    Except Nat (List (String × Value))
  | [], _, entries => .ok entries
  | [k], v, entries => .ok (entries ++ [(k, v)])
  | k :: ks, v, entries =>
    match entries.find? (fun e => e.1 = k) with
    | some (_, .dottedTable inner span) =>
      (insertDotted ks v inner).map fun inner => replaceFirst k (.dottedTable inner span) entries
    | some (_, other) => .error other.start
    | none => (insertDotted ks v []).map fun inner => entries ++ [(k, .dottedTable inner v.span)]

/-! ## Numbers -/

/-- Whether `c` is a digit in the given radix. -/
def isDigitIn (radix : Nat) (c : Char) : Bool :=
  if radix = 16 then isHexDigit c
  else '0' ≤ c && c.toNat < '0'.toNat + radix

/-- Scans the integer at the front of `cs`, which starts at offset `start`: an optional
sign, then digits with single underscores between them, and no leading zero unless allowed.
The answer is where the integer ends. -/
def scanFrom (start : Nat) (allowSign allowZeros : Bool) (radix : Nat) :
    Nat → Bool → Bool → Bool → List Char → Except Failure Nat
  | i, first, _, underscore, [] =>
    if first || underscore then .error (.located start .numberInvalid) else .ok i
  | i, first, firstZero, underscore, c :: cs =>
    if i = 0 ∧ (c = '+' ∨ c = '-') ∧ allowSign then
      scanFrom start allowSign allowZeros radix (i + 1) first firstZero underscore cs
    else if c = '0' ∧ first then
      scanFrom start allowSign allowZeros radix (i + 1) false true underscore cs
    else if isDigitIn radix c then
      if !first && firstZero && !allowZeros then .error (.located (start + i) .numberInvalid)
      else scanFrom start allowSign allowZeros radix (i + 1) false firstZero false cs
    else if c = '_' ∧ first then .error (.located (start + i) .numberInvalid)
    else if c = '_' ∧ !underscore then
      scanFrom start allowSign allowZeros radix (i + 1) false firstZero true cs
    else if first || underscore then .error (.located start .numberInvalid)
    else .ok i

/-- The integer at the front of `cs` and what follows it. -/
def scanInteger (cs : List Char) (start : Nat) (allowSign allowZeros : Bool) (radix : Nat) :
    Except Failure (List Char × List Char) :=
  (scanFrom start allowSign allowZeros radix 0 true false false cs).map
    fun n => (cs.take n, cs.drop n)

/-- The value of digits in a radix. -/
def radixValue (radix : Nat) (cs : List Char) : Nat :=
  cs.foldl (fun acc c => acc * radix + hexValue c) 0

/-- The integer a scanned prefix spells, within the 64-bit signed range. -/
def integerValue (cs : List Char) (radix start : Nat) : Except Failure Int :=
  let cs := (cs.filter (· ≠ '_')).dropWhile (· = '+')
  let (negative, digits) := match cs with
    | '-' :: rest => (true, rest)
    | _ => (false, cs)
  let n := radixValue radix digits
  if digits.isEmpty then .error (.located start .numberInvalid)
  else if negative then
    if n ≤ Nat.pow 2 63 then .ok (-(n : Int)) else .error (.located start .numberInvalid)
  else if n < Nat.pow 2 63 then .ok n else .error (.located start .numberInvalid)

/-- An integer in a radix, filling all of `cs`. -/
def integerIn (cs : List Char) (start radix : Nat) : Except Failure Int := do
  let (pre, post) ← scanInteger cs start (radix = 10) (radix ≠ 10) radix
  if !post.isEmpty then throw (.located start .numberInvalid)
  integerValue pre radix start

/-- The float with the given integral part, fraction digits and exponent, when finite. -/
def floatValue (integral fraction exponent : List Char) (start : Nat) : Except Failure Float :=
  let negative := integral.head? = some '-'
  let whole := integral.filter Char.isDigit
  let fraction := fraction.filter Char.isDigit
  let expNegative := exponent.head? = some '-'
  let expDigits := Text.exponentValue (exponent.filter Char.isDigit)
  let exp : Int := (if expNegative then -(expDigits : Int) else expDigits) - fraction.length
  let f := Text.Binary64.ofDecimal negative (Text.digitsValue (whole ++ fraction)) exp
  if f.isFinite then .ok f else .error (.located start .numberInvalid)

/-! ## The reader -/

/-- A reader over the tokens of a document: it sees the lexed document and the index of the
next token, and may fail. -/
abbrev Parse (α : Type) := ReaderT Lexed (StateT Nat (Except Failure)) α

/-- The next token, without taking it; the lexer's failure when the tokens have run out
before it. -/
def peek : Parse (Option Token) := fun lx pos =>
  if h : pos < lx.tokens.size then .ok (some lx.tokens[pos], pos)
  else match lx.failure with
    | some (f, _) => .error f
    | none => .ok (none, pos)

/-- The token `k` places ahead, if it is there, ignoring failures. -/
def peekAhead (k : Nat) : Parse (Option Token) := fun lx pos =>
  .ok (lx.tokens[pos + k]?, pos)

/-- Takes the next token. -/
def advance : Parse Unit := modify (· + 1)

/-- Takes and answers the next token. -/
def next : Parse (Option Token) := do
  let t ← peek
  if t.isSome then advance
  pure t

/-- The offset of the next token, or of the failure, or the end of the document. -/
def current : Parse Nat := fun lx pos =>
  if h : pos < lx.tokens.size then .ok (lx.tokens[pos].start, pos)
  else match lx.failure with
    | some (_, s) => .ok (s, pos)
    | none => .ok (lx.length, pos)

/-- The length of the document. -/
def documentLength : Parse Nat := fun lx pos => .ok (lx.length, pos)

/-- Lifts a computation that may fail. -/
def liftExcept {α : Type} (e : Except Failure α) : Parse α :=
  match e with
  | .ok a => pure a
  | .error f => throw f

/-- Skips a run of blanks. -/
def eatWhitespace : Parse Unit := do
  match ← peek with
  | some ⟨_, _, .whitespace _⟩ => advance
  | _ => pure ()

/-- Takes the next token when it is `t`. -/
def eatSpanned (t : Tok) : Parse (Option Token) := do
  match ← peek with
  | some tk => if tk.tok == t then do advance; pure (some tk) else pure none
  | none => pure none

/-- Whether the next token is `t`, taking it if so. -/
def eat (t : Tok) : Parse Bool := do
  return (← eatSpanned t).isSome

/-- A line feed or the end of the document. -/
def eatNewlineOrEof : Parse Unit := do
  let here ← current
  match ← next with
  | none => pure ()
  | some tk =>
    if tk.tok == .newline then pure ()
    else throw (.located here (.wanted "newline" tk.tok.describe))

/-- A comment, which must end its line. -/
def eatComment : Parse Bool := do
  match ← peek with
  | some ⟨_, _, .comment⟩ => do advance; eatNewlineOrEof; pure true
  | _ => pure false

/-- The token `t`, which must come next. -/
def expectSpanned (t : Tok) : Parse Token := do
  let here ← current
  match ← next with
  | some tk => if tk.tok == t then pure tk else throw (.located here (.wanted t.describe tk.tok.describe))
  | none => throw (.located (← documentLength) (.wanted t.describe "eof"))

/-- A key: a bare word or a single-line string. -/
def tableKey : Parse String := do
  let here ← current
  match ← next with
  | some ⟨_, _, .keylike k⟩ => pure k
  | some ⟨s, _, .str v multiline⟩ =>
    if multiline then throw (.located s .multilineStringKey) else pure v
  | some tk => throw (.located here (.wanted "a table key" tk.tok.describe))
  | none => throw (.located (← documentLength) (.wanted "a table key" "eof"))

/-- The rest of a dotted key after its first part. -/
def dottedRest : Nat → List String → Parse (List String)
  | 0, acc => pure acc
  | fuel + 1, acc => do
    if ← eat .period then
      eatWhitespace
      let k ← tableKey
      eatWhitespace
      dottedRest fuel (acc ++ [k])
    else pure acc

/-- A dotted key `a . b . c`. -/
def dottedKey (fuel : Nat) : Parse (List String) := do
  let k ← tableKey
  eatWhitespace
  dottedRest fuel [k]

/-- The text of the tokens from index `first` up to the next token. -/
def textSince (first : Nat) : Parse String := fun lx pos =>
  let piece (t : Token) : String :=
    match t.tok with
    | .keylike k => k
    | .whitespace w => w
    | .colon => ":"
    | .period => "."
    | .plus => "+"
    | _ => ""
  .ok (String.join (((lx.tokens.extract first pos).toList).map piece), pos)

/-- A bare word that must come next in a date-time starting at `start`. -/
def dateWord (start : Nat) : Parse Unit := do
  match ← next with
  | some ⟨_, _, .keylike _⟩ => pure ()
  | _ => throw (.located start .dateInvalid)

/-- A date-time whose first word has been read: an optional time after one blank, then
`:minutes:seconds`, an optional fraction and an optional offset. The answer is its text. -/
def datetime (span : Span) (first : Nat) (colonEaten : Bool) : Parse Value := do
  let start := span.start
  match ← peekAhead 0, ← peekAhead 1 with
  | some ⟨_, _, .whitespace " "⟩, some ⟨_, _, .keylike _⟩ => do advance; advance
  | _, _ => pure ()
  let colon ← if colonEaten then pure true else eat .colon
  if colon then
    dateWord start
    discard (expectSpanned .colon)
    dateWord start
    if ← eat .period then dateWord start
    if ← eat .plus then dateWord start
    if ← eat .colon then dateWord start
  let text ← textSince first
  pure (.datetime text span)

/-- A float whose integral part `cs` starts at `start`, perhaps with the fraction that
followed a point, and perhaps with an exponent whose sign came as a separate `+`. -/
def float (cs : List Char) (start : Nat) (after : Option (List Char × Nat)) : Parse Float := do
  let (integral, suffix) ← liftExcept (scanInteger cs start true false 10)
  let (fraction, suffix, suffixStart) ← match after with
    | some (a, aStart) => do
      if !suffix.isEmpty then throw (.located start .numberInvalid)
      let (fr, rest) ← liftExcept (scanInteger a aStart false true 10)
      pure (fr, rest, aStart + fr.length)
    | none => pure ([], suffix, start + integral.length)
  let exponent ← match suffix with
    | [] => pure []
    | c :: more =>
      if c = 'e' ∨ c = 'E' then do
        let (ex, rest) ← if more.isEmpty then do
            discard (eat .plus)
            match ← next with
            | some ⟨t, _, .keylike k⟩ => liftExcept (scanInteger k.toList t false true 10)
            | _ => throw (.located start .numberInvalid)
          else liftExcept (scanInteger more (suffixStart + 1) true true 10)
        if !rest.isEmpty then throw (.located start .numberInvalid)
        pure ex
      else throw (.located start .numberInvalid)
  liftExcept (floatValue integral fraction exponent start)

/-- A number whose word `s` starts at `sStart`; the value's span is `start`..`stop`. -/
def number (start stop : Nat) (s : String) (sStart : Nat) : Parse Value := do
  let cs := s.toList
  let span : Span := ⟨start, stop⟩
  if s.startsWith "0x" then pure (.integer (← liftExcept (integerIn (cs.drop 2) (sStart + 2) 16)) span)
  else if s.startsWith "0o" then pure (.integer (← liftExcept (integerIn (cs.drop 2) (sStart + 2) 8)) span)
  else if s.startsWith "0b" then pure (.integer (← liftExcept (integerIn (cs.drop 2) (sStart + 2) 2)) span)
  else if cs.contains 'e' || cs.contains 'E' then pure (.float (← float cs sStart none) span)
  else if ← eat .period then
    let here ← current
    match ← next with
    | some ⟨ts, te, .keylike after⟩ => pure (.float (← float cs sStart (some (after.toList, ts))) ⟨ts, te⟩)
    | _ => throw (.located here .numberInvalid)
  else if s = "inf" then pure (.float (Text.signedInfinity false) span)
  else if s = "-inf" then pure (.float (Text.signedInfinity true) span)
  else if s = "nan" then pure (.float Text.quietNaN span)
  else if s = "-nan" then pure (.float (-Text.quietNaN) span)
  else pure (.integer (← liftExcept (integerIn cs sStart 10)) span)

/-- Whether a bare word reads as the start of a date-time. -/
def looksLikeDate (s : String) : Bool :=
  let cs := s.toList
  let rest := cs.drop 1
  cs.contains 'T' || cs.contains 't' ||
    (cs.length > 1 && rest.contains '-' && !(s.splitOn "e-").length > 1 &&
      !(s.splitOn "E-").length > 1)

/-- Whether a bare word in value position can start a number or a date-time: `inf`, `nan`, or a
word that begins with a minus sign or a digit. Any other bare word is a string that lacks its
quotes. -/
def startsNumber (s : String) : Bool :=
  s = "inf" || s = "nan" ||
    match s.toList with
    | c :: _ => c = '-' || c.isDigit
    | [] => false

/-- A number or a date-time starting with the word `s` at token index `first`. -/
def numberOrDate (start stop : Nat) (s : String) (first : Nat) : Parse Value := do
  if looksLikeDate s then datetime ⟨start, stop⟩ first false
  else if ← eat .colon then datetime ⟨start, stop⟩ first true
  else number start stop s start

/-- A number after a leading `+` at `start`. -/
def numberAfterPlus (start : Nat) : Parse Value := do
  let here ← current
  match ← next with
  | some ⟨ts, te, .keylike s⟩ => number start te s ts
  | _ => throw (.located here .numberInvalid)

/-- The index of the next token. -/
def position : Parse Nat := fun _ pos => .ok (pos, pos)

/-- Skips blanks, line feeds and comments between the items of an array. -/
def skipBetween : Nat → Parse Unit
  | 0 => pure ()
  | fuel + 1 => do
    eatWhitespace
    if ← eat .newline then skipBetween fuel
    else if ← eatComment then skipBetween fuel
    else pure ()

mutual

/-- A value. -/
def value : Nat → Parse Value
  | 0 => throw (.loose (.custom "nesting too deep"))
  | fuel + 1 => do
    let here ← current
    let first ← position
    match ← next with
    | some ⟨s, e, .str v _⟩ => pure (.string v ⟨s, e⟩)
    | some ⟨s, e, .keylike "true"⟩ => pure (.boolean true ⟨s, e⟩)
    | some ⟨s, e, .keylike "false"⟩ => pure (.boolean false ⟨s, e⟩)
    | some ⟨s, e, .keylike k⟩ =>
      if startsNumber k then numberOrDate s e k first
      else throw (.located here .unquotedString)
    | some ⟨s, _, .plus⟩ => numberAfterPlus s
    | some ⟨s, _, .leftBrace⟩ => do
      eatWhitespace
      match ← eatSpanned .rightBrace with
      | some close => pure (.inlineTable [] ⟨s, close.stop⟩)
      | none => do
        let (entries, close) ← inlineEntries fuel []
        pure (.inlineTable entries ⟨s, close.stop⟩)
    | some ⟨s, _, .leftBracket⟩ => do
      let (items, close) ← arrayItems fuel []
      pure (.array items ⟨s, close.stop⟩)
    | some tk => throw (.located here (.wanted "a value" tk.tok.describe))
    | none => throw (.located (← documentLength) .unexpectedEof)

/-- The entries of an inline table after its opening brace, up to its closing one. -/
def inlineEntries : Nat → List (String × Value) → Parse (List (String × Value) × Token)
  | 0, _ => throw (.loose (.custom "nesting too deep"))
  | fuel + 1, acc => do
    let key ← dottedKey fuel
    eatWhitespace
    discard (expectSpanned .equals)
    eatWhitespace
    let v ← value fuel
    let acc ← match insertDotted key v acc with
      | .ok acc => pure acc
      | .error o => throw (.located o .dottedKeyInvalidType)
    eatWhitespace
    match ← eatSpanned .rightBrace with
    | some close => pure (acc, close)
    | none => do
      discard (expectSpanned .comma)
      eatWhitespace
      inlineEntries fuel acc

/-- The items of an array after its opening bracket, up to its closing one. -/
def arrayItems : Nat → List Value → Parse (List Value × Token)
  | 0, _ => throw (.loose (.custom "nesting too deep"))
  | fuel + 1, acc => do
    skipBetween fuel
    match ← eatSpanned .rightBracket with
    | some close => pure (acc, close)
    | none => do
      let v ← value fuel
      let acc := acc ++ [v]
      skipBetween fuel
      if ← eat .comma then arrayItems fuel acc
      else do
        skipBetween fuel
        let close ← expectSpanned .rightBracket
        pure (acc, close)

end

/-- A line of the document: a table header or a key with its value. -/
inductive Line where
  | header (offset : Nat) (array : Bool) (keys : List String)
  | entry (key : List String) (v : Value)
  deriving Inhabited

/-- The keys of a table header after its opening bracket(s), and the end of its line. -/
def headerKeys (array : Bool) : Nat → Bool → List String → Parse (List String)
  | 0, _, acc => pure acc
  | fuel + 1, first, acc => do
    eatWhitespace
    let more ← if first then pure true else eat .period
    if more then
      eatWhitespace
      let k ← tableKey
      headerKeys array fuel false (acc ++ [k])
    else
      discard (expectSpanned .rightBracket)
      if array then discard (expectSpanned .rightBracket)
      eatWhitespace
      if !(← eatComment) then eatNewlineOrEof
      pure acc

/-- Skips blank lines and comment lines. -/
def skipLines : Nat → Parse Unit
  | 0 => pure ()
  | fuel + 1 => do
    eatWhitespace
    if ← eatComment then skipLines fuel
    else if ← eat .newline then skipLines fuel
    else pure ()

/-- The next line, or nothing at the end of the document. -/
def line (fuel : Nat) : Parse (Option Line) := do
  skipLines fuel
  match ← peek with
  | some ⟨here, _, .leftBracket⟩ => do
    advance
    let array ← eat .leftBracket
    let keys ← headerKeys array fuel true []
    pure (some (.header here array keys))
  | some _ => do
    let key ← dottedKey fuel
    eatWhitespace
    discard (expectSpanned .equals)
    eatWhitespace
    let v ← value fuel
    eatWhitespace
    if !(← eatComment) then eatNewlineOrEof
    pure (some (.entry key v))
  | none => pure none

/-- Whether a table is worth keeping: it has a header or values. -/
def Table.isKept (t : Table) : Bool := !t.header.isEmpty || t.values.isSome

/-- Reads the lines that are left into tables, the current one being `cur`. -/
def collect (budget : Nat) : Nat → Table → Array Table → Parse (Array Table)
  | 0, cur, done => pure (if cur.isKept then done.push cur else done)
  | fuel + 1, cur, done => do
    match ← line budget with
    | none => pure (if cur.isKept then done.push cur else done)
    | some (.header here array keys) =>
      let done := if cur.isKept then done.push cur else done
      collect budget fuel ⟨here, keys, some [], array⟩ done
    | some (.entry key v) =>
      match insertDotted key v (cur.values.getD []) with
      | .ok values => collect budget fuel { cur with values := some values } done
      | .error o => throw (.located o .dottedKeyInvalidType)

/-- The tables of a document, in the order of their headers. -/
def readTables (input : String) : Except Failure (Array Table) :=
  let lx := lex input
  let budget := lx.tokens.size + 2
  ((collect budget budget ⟨0, [], none, false⟩ #[]).run lx |>.run 0).map Prod.fst

end CameraAcquisition.Toml
