import CameraAcquisition.Text.GraphemeExtend

/-!
# Escaped characters and quoted strings

Two spellings of text inside messages. A character alone is written with its printable
ASCII form or a backslash escape (`\t`, `\n`, `\u{e9}`). A string is quoted with double quotes
and backslash escapes for quotes, backslashes and control characters; other characters stay
as they are, except the unprintable ones and the grapheme extenders, which are written as
`\u{…}`.

## What this module delivers

- `escapeChar`: the escaped form of one character.
- `quote`: the quoted form of a string.
-/

set_option autoImplicit false

namespace CameraAcquisition.Text

/-- Lowercase hex digits of a number, without leading zeros. -/
def hexText (n : Nat) : String := String.ofList (Nat.toDigits 16 n)

/-- `\u{…}` with the lowercase hex code of a character. -/
def unicodeEscape (c : Char) : String := "\\u" ++ "\x7b" ++ hexText c.toNat ++ "\x7d"

/-- A character on its own: printable ASCII stays, the usual control characters and the
quotes get a backslash, everything else is written as `\u{…}`. -/
def escapeChar (c : Char) : String :=
  match c with
  | '\t' => "\\t"
  | '\r' => "\\r"
  | '\n' => "\\n"
  | '\'' => "\\'"
  | '"' => "\\\""
  | '\\' => "\\\\"
  | c => if 0x20 ≤ c.toNat ∧ c.toNat ≤ 0x7e then c.toString else unicodeEscape c

/-- Characters that a quoted string writes as `\u{…}`: grapheme extenders, which would be drawn
on the character before them, and unprintable characters. -/
def needsEscape (c : Char) : Bool := isGraphemeExtend c || !isPrintable c

/-- One character inside a quoted string. -/
def quoteChar (c : Char) : String :=
  match c with
  | '\x00' => "\\0"
  | '\t' => "\\t"
  | '\r' => "\\r"
  | '\n' => "\\n"
  | '"' => "\\\""
  | '\\' => "\\\\"
  | c => if needsEscape c then unicodeEscape c else c.toString

/-- A string between double quotes, with its characters escaped as `quoteChar` says. -/
def quote (s : String) : String :=
  "\"" ++ String.join (s.toList.map quoteChar) ++ "\""

end CameraAcquisition.Text
