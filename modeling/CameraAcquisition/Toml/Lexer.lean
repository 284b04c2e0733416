import CameraAcquisition.Toml.Error

/-!
# Tokens of a TOML document

The lexer cuts a document into tokens: runs of blanks, line feeds, comments, the punctuation
`= . , : + { } [ ]`, bare words of letters, digits, `-` and `_`, and the four kinds of
string. A carriage return directly before a line feed belongs to the line feed, and a byte
order mark at the very start is skipped. Every token keeps the byte offsets it spans.

The lexer stops at the first character that cannot start or continue a token; the tokens
before it stay, and the failure waits behind them, so that a reader who stops earlier never
sees it.

Strings follow the TOML rules: basic strings have backslash escapes, literal strings have
none, and the triple-quoted forms may span lines, drop a line feed right after the opening
quotes, and end with up to two extra quotes that belong to the content.

## What this module delivers

- `Tok` with `Tok.describe`, `Token`, `Lexed`.
- `lex`, which cuts a whole document.
-/

set_option autoImplicit false

namespace CameraAcquisition.Toml

/-- What a token is. -/
inductive Tok where
  | whitespace (text : String)
  | newline
  | comment
  | equals
  | period
  | comma
  | colon
  | plus
  | leftBrace
  | rightBrace
  | leftBracket
  | rightBracket
  | keylike (text : String)
  | str (value : String) (multiline : Bool)
  deriving Repr, BEq, Inhabited

namespace Tok

/-- How messages name a token. -/
def describe : Tok → String
  | whitespace _ => "whitespace"
  | newline => "a newline"
  | comment => "a comment"
  | equals => "an equals"
  | period => "a period"
  | comma => "a comma"
  | colon => "a colon"
  | plus => "a plus"
  | leftBrace => "a left brace"
  | rightBrace => "a right brace"
  | leftBracket => "a left bracket"
  | rightBracket => "a right bracket"
  | keylike _ => "an identifier"
  | str _ true => "a multiline string"
  | str _ false => "a string"

end Tok

/-- A token and the byte offsets it spans. -/
structure Token where
  start : Nat
  stop : Nat
  tok : Tok
  deriving Repr, BEq, Inhabited

/-- A lexed document: its tokens, the failure behind them if the lexer stopped early (with
the offset where the failing token starts), and the document's length in bytes. -/
structure Lexed where
  tokens : Array Token
  failure : Option (Failure × Nat)
  length : Nat
  deriving Inhabited

/-- Characters with their byte offsets. -/
abbrev Located := List (Nat × Char)

/-- The characters of a text with their byte offsets; a carriage return directly before a
line feed is read as that line feed. -/
def locate : List Char → Nat → Located
  | '\r' :: '\n' :: rest, i => (i, '\n') :: locate rest (i + 2)
  | c :: rest, i => (i, c) :: locate rest (i + c.utf8Size)
  | [], _ => []

/-- The offset of the first character left, or the end of the document. -/
def offsetOf (cs : Located) (length : Nat) : Nat :=
  match cs with
  | (i, _) :: _ => i
  | [] => length

/-- Letters, digits, `-` and `_` make up bare words. -/
def isKeylike (c : Char) : Bool :=
  ('A' ≤ c && c ≤ 'Z') || ('a' ≤ c && c ≤ 'z') || ('0' ≤ c && c ≤ '9') || c == '-' || c == '_'

/-- Characters a string may hold as they are: tab and everything from space up except
delete. -/
def isStringChar (c : Char) : Bool := c == '\t' || (0x20 ≤ c.toNat && c.toNat != 0x7f)

/-- A hex digit that is ASCII. -/
def isHexDigit (c : Char) : Bool :=
  ('0' ≤ c && c ≤ '9') || ('a' ≤ c && c ≤ 'f') || ('A' ≤ c && c ≤ 'F')

/-- The value of a hex digit. -/
def hexValue (c : Char) : Nat :=
  if '0' ≤ c && c ≤ '9' then c.toNat - '0'.toNat
  else if 'a' ≤ c && c ≤ 'f' then c.toNat - 'a'.toNat + 10
  else c.toNat - 'A'.toNat + 10

/-- Reads `count` hex digits of a `\u` or `\U` escape at offset `pos` in a string starting
at `start`, and the character they name. -/
def hexEscape (start pos : Nat) : Nat → Nat → Located → Except Failure (Char × Located)
  | 0, v, cs =>
    if v.isValidChar then .ok (Char.ofNat v, cs)
    else .error (.located pos (.invalidEscapeValue v))
  | count + 1, v, cs =>
    match cs with
    | [] => .error (.located start .unterminatedString)
    | (j, c) :: rest =>
      if isHexDigit c then hexEscape start pos count (v * 16 + hexValue c) rest
      else .error (.located j (.invalidHexEscape c))

/-- After a backslash that ends a line of a multi-line string: blanks up to the line feed,
then every blank and line feed after it. Another character before the line feed is an
invalid escape of the character `e` at offset `pos`. -/
def lineEnding (e : Char) (pos : Nat) : Located → Except Failure Located
  | [] => .ok []
  | (_, c) :: rest =>
    if c = ' ' ∨ c = '\t' then lineEnding e pos rest
    else if c = '\n' then .ok (rest.dropWhile fun p => p.2 = ' ' ∨ p.2 = '\t' ∨ p.2 = '\n')
    else .error (.located pos (.invalidEscape e))

/-- Reads the escape after a backslash in a basic string starting at `start`. -/
def escape (start : Nat) (multiline : Bool) (acc : String) :
    Located → Except Failure (String × Located)
  | [] => .error (.located start .unterminatedString)
  | (i, e) :: rest =>
    match e with
    | '"' => .ok (acc.push '"', rest)
    | '\\' => .ok (acc.push '\\', rest)
    | 'b' => .ok (acc.push '\x08', rest)
    | 'f' => .ok (acc.push '\x0c', rest)
    | 'n' => .ok (acc.push '\n', rest)
    | 'r' => .ok (acc.push '\r', rest)
    | 't' => .ok (acc.push '\t', rest)
    | 'u' => (hexEscape start i 4 0 rest).map fun (c, rest) => (acc.push c, rest)
    | 'U' => (hexEscape start i 8 0 rest).map fun (c, rest) => (acc.push c, rest)
    | '\n' =>
      if multiline then
        .ok (acc, rest.dropWhile fun p => p.2 = ' ' ∨ p.2 = '\t' ∨ p.2 = '\n')
      else .error (.located i (.invalidEscape e))
    | ' ' | '\t' =>
      if multiline then (lineEnding e i rest).map fun rest => (acc, rest)
      else .error (.located i (.invalidEscape e))
    | _ => .error (.located i (.invalidEscape e))

/-- Up to two more delimiters after the closing ones belong to the content. -/
def extraQuotes (delim : Char) (acc : String) (cs : Located) : String × Located :=
  match cs with
  | (_, c) :: rest =>
    if c = delim then
      match rest with
      | (_, c2) :: rest2 => if c2 = delim then (acc.push delim |>.push delim, rest2)
                            else (acc.push delim, rest)
      | [] => (acc.push delim, rest)
    else (acc, cs)
  | [] => (acc, cs)

/-- The body of a string after its opening delimiter(s): `basic` strings have escapes,
`multiline` ones may hold line feeds. `n` counts the characters read, so that a line feed
right after the opening is dropped. -/
def stringBody (delim : Char) (basic multiline : Bool) (start : Nat) :
    Nat → Nat → String → Located → Except Failure (String × Located)
  | 0, _, _, _ => .error (.located start .unterminatedString)
  | fuel + 1, n, acc, cs =>
    match cs with
    | [] => .error (.located start .unterminatedString)
    | (i, c) :: rest =>
      let n := n + 1
      if c = '\n' then
        if multiline then stringBody delim basic multiline start fuel n
            (if n = 1 then acc else acc.push '\n') rest
        else .error (.located i .newlineInString)
      else if c = delim then
        if multiline then
          match rest with
          | (_, c2) :: rest2 =>
            if c2 = delim then
              match rest2 with
              | (_, c3) :: rest3 =>
                if c3 = delim then .ok (extraQuotes delim acc rest3)
                else stringBody delim basic multiline start fuel n
                  (acc.push delim |>.push delim) rest2
              | [] => stringBody delim basic multiline start fuel n
                  (acc.push delim |>.push delim) rest2
            else stringBody delim basic multiline start fuel n (acc.push delim) rest
          | [] => stringBody delim basic multiline start fuel n (acc.push delim) rest
        else .ok (acc, rest)
      else if basic ∧ c = '\\' then
        match escape start multiline acc rest with
        | .ok (acc, rest) => stringBody delim basic multiline start fuel n acc rest
        | .error f => .error f
      else if isStringChar c then stringBody delim basic multiline start fuel n (acc.push c) rest
      else .error (.located i (.invalidCharInString c))

/-- A string whose opening delimiter at offset `start` has been read. -/
def readString (delim : Char) (basic : Bool) (start : Nat) (cs : Located) :
    Except Failure (Tok × Located) :=
  match cs with
  | (_, c) :: rest =>
    if c = delim then
      match rest with
      | (_, c2) :: rest2 =>
        if c2 = delim then
          (stringBody delim basic true start (rest2.length + 1) 0 "" rest2).map
            fun (v, rest) => (.str v true, rest)
        else .ok (.str "" false, rest)
      | [] => .ok (.str "" false, rest)
    else
      (stringBody delim basic false start (cs.length + 1) 0 "" cs).map
        fun (v, rest) => (.str v false, rest)
  | [] => .error (.located start .unterminatedString)

/-- Cuts located characters into tokens, one token a step. -/
def lexFrom (length : Nat) : Nat → Located → Array Token → Lexed
  | 0, _, acc => ⟨acc, none, length⟩
  | fuel + 1, cs, acc =>
    match cs with
    | [] => ⟨acc, none, length⟩
    | (i, c) :: rest =>
      let emit (t : Tok) (rest : Located) : Lexed :=
        lexFrom length fuel rest (acc.push ⟨i, offsetOf rest length, t⟩)
      let fail (f : Failure) : Lexed := ⟨acc, some (f, i), length⟩
      match c with
      | '\n' => emit .newline rest
      | ' ' | '\t' =>
        let (blanks, rest) := rest.span fun p => p.2 = ' ' ∨ p.2 = '\t'
        emit (.whitespace (String.ofList (c :: blanks.map Prod.snd))) rest
      | '#' => emit .comment (rest.dropWhile fun p => p.2 = '\t' ∨ 0x20 ≤ p.2.toNat)
      | '=' => emit .equals rest
      | '.' => emit .period rest
      | ',' => emit .comma rest
      | ':' => emit .colon rest
      | '+' => emit .plus rest
      | '{' => emit .leftBrace rest
      | '}' => emit .rightBrace rest
      | '[' => emit .leftBracket rest
      | ']' => emit .rightBracket rest
      | '\'' =>
        match readString '\'' false i rest with
        | .ok (t, rest) => emit t rest
        | .error f => fail f
      | '"' =>
        match readString '"' true i rest with
        | .ok (t, rest) => emit t rest
        | .error f => fail f
      | c =>
        if isKeylike c then
          let (word, rest) := rest.span fun p => isKeylike p.2
          emit (.keylike (String.ofList (c :: word.map Prod.snd))) rest
        else fail (.located i (.unexpected c))

/-- Lexes a whole document. -/
def lex (input : String) : Lexed :=
  let cs := locate input.toList 0
  let cs := match cs with
    | (_, c) :: rest => if c.toNat = 0xfeff then rest else cs
    | [] => cs
  lexFrom input.utf8ByteSize (cs.length + 1) cs #[]

end CameraAcquisition.Toml
