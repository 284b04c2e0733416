import CameraAcquisition.Text.Decimal

/-!
# Reading numbers from text

Decimal integers and floating point literals as a command line or a configuration file
spells them, with the exact error each malformed spelling gets.

A float is the binary64 value nearest to the decimal the text denotes, ties to even. It is
computed with exact natural-number arithmetic: the quotient `num / den` is scaled by a power
of two so that 53 bits are left of the binary point (fewer below the normal range), and the
remainder decides the rounding. Nothing is rounded twice.

## What this module delivers

- `quietNaN`, `signedInfinity`, `Binary64.nearest`, `Binary64.ofDecimal`.
- `IntSyntax`, `readUnsigned`, `readSigned`.
- `FloatSyntax`, `readFloat`.
-/

set_option autoImplicit false

namespace CameraAcquisition.Text

/-- The quiet NaN. -/
def quietNaN : Float := Float.ofBits 0x7ff8000000000000

/-- Infinity with the given sign. -/
def signedInfinity (negative : Bool) : Float :=
  Float.ofBits (if negative then 0xfff0000000000000 else 0x7ff0000000000000)

namespace Binary64

/-- `num / (den · 2^e)` as quotient, remainder and divisor. -/
def divAt (num den : Nat) (e : Int) : Nat × Nat × Nat :=
  if 0 ≤ e then
    let d := den * Nat.pow 2 e.toNat
    (num / d, num % d, d)
  else
    let n := num * Nat.pow 2 (-e).toNat
    (n / den, n % den, den)

/-- The binary64 value nearest to `num / den`, ties to even, with the given sign.
A zero numerator or denominator gives a signed zero. -/
def nearest (negative : Bool) (num den : Nat) : Float :=
  let sign : UInt64 := if negative then 0x8000000000000000 else 0
  if num = 0 ∨ den = 0 then Float.ofBits sign
  else
    -- the quotient at `guess` lies in [2^51, 2^53)
    let guess : Int := (Nat.log2 num : Int) - (Nat.log2 den : Int) - 52
    let e := if (divAt num den guess).1 < Nat.pow 2 52 then guess - 1 else guess
    let e := max e (-1074)
    let (q, r, d) := divAt num den e
    let q := if 2 * r > d ∨ (2 * r = d ∧ q % 2 = 1) then q + 1 else q
    let (q, e) := if q = Nat.pow 2 53 then (Nat.pow 2 52, e + 1) else (q, e)
    if e > 971 then signedInfinity negative
    else if q < Nat.pow 2 52 then Float.ofBits (sign ||| q.toUInt64)
    else
      Float.ofBits (sign ||| ((e + 1075).toNat.toUInt64 <<< 52) ||| (q - Nat.pow 2 52).toUInt64)

/-- The binary64 value nearest to `digits · 10^exp`, with the given sign. Values far beyond
the range are settled by their number of digits alone. -/
def ofDecimal (negative : Bool) (digits : Nat) (exp : Int) : Float :=
  let magnitude : Int := exp + (digitCount digits : Int)
  if digits = 0 then nearest negative 0 1
  else if magnitude > 310 then signedInfinity negative
  else if magnitude < -330 then nearest negative 0 1
  else if 0 ≤ exp then nearest negative (digits * Nat.pow 10 exp.toNat) 1
  else nearest negative digits (Nat.pow 10 (-exp).toNat)

end Binary64

/-- Why a text is not an integer. -/
inductive IntSyntax where
  | empty
  | invalidDigit
  | tooLarge
  | tooSmall
  deriving Repr, BEq, DecidableEq, Inhabited

namespace IntSyntax

/-- The text of the error. -/
def message : IntSyntax → String
  | empty => "cannot parse integer from empty string"
  | invalidDigit => "invalid digit found in string"
  | tooLarge => "number too large to fit in target type"
  | tooSmall => "number too small to fit in target type"

end IntSyntax

/-- The value of a decimal digit. -/
def digitValue (c : Char) : Nat := c.toNat - '0'.toNat

/-- Accumulates decimal digits left to right, upwards, failing at the first non-digit or as
soon as the value passes `bound`. -/
def accumulateUp (bound : Nat) : Nat → List Char → Except IntSyntax Nat
  | acc, [] => .ok acc
  | acc, c :: cs =>
    if c.isDigit then
      let acc := acc * 10 + digitValue c
      if acc > bound then .error .tooLarge else accumulateUp bound acc cs
    else .error .invalidDigit

/-- Accumulates decimal digits of a negative number, failing at the first non-digit or as
soon as the magnitude passes `bound`. -/
def accumulateDown (bound : Nat) : Nat → List Char → Except IntSyntax Nat
  | acc, [] => .ok acc
  | acc, c :: cs =>
    if c.isDigit then
      let acc := acc * 10 + digitValue c
      if acc > bound then .error .tooSmall else accumulateDown bound acc cs
    else .error .invalidDigit

/-- An unsigned decimal integer of at most `bound`, with an optional leading plus. -/
def readUnsigned (bound : Nat) (s : String) : Except IntSyntax Nat :=
  match s.toList with
  | [] => .error .empty
  | ['+'] => .error .invalidDigit
  | ['-'] => .error .invalidDigit
  | '+' :: cs => accumulateUp bound 0 cs
  | cs => accumulateUp bound 0 cs

/-- A signed decimal integer in `[-below, above]`, with an optional sign. -/
def readSigned (below above : Nat) (s : String) : Except IntSyntax Int :=
  match s.toList with
  | [] => .error .empty
  | ['+'] => .error .invalidDigit
  | ['-'] => .error .invalidDigit
  | '+' :: cs => (accumulateUp above 0 cs).map Int.ofNat
  | '-' :: cs => (accumulateDown below 0 cs).map fun n => -(n : Int)
  | cs => (accumulateUp above 0 cs).map Int.ofNat

/-- Why a text is not a float. -/
inductive FloatSyntax where
  | empty
  | invalid
  deriving Repr, BEq, DecidableEq, Inhabited

namespace FloatSyntax

/-- The text of the error. -/
def message : FloatSyntax → String
  | empty => "cannot parse float from empty string"
  | invalid => "invalid float literal"

end FloatSyntax

/-- The number a list of decimal digits spells. -/
def digitsValue (cs : List Char) : Nat := cs.foldl (fun acc c => acc * 10 + digitValue c) 0

/-- An exponent's digits; the value stops growing once it passes 65535, which is already far
beyond every finite float. -/
def exponentValue (cs : List Char) : Nat :=
  cs.foldl (fun acc c => if acc < 0x10000 then acc * 10 + digitValue c else acc) 0

/-- The exponent part after `e`: an optional sign and at least one digit, and nothing else. -/
def exponentPart (cs : List Char) : Option Int :=
  let (negative, rest) := match cs with
    | '-' :: rest => (true, rest)
    | '+' :: rest => (false, rest)
    | rest => (false, rest)
  if rest.isEmpty || !rest.all Char.isDigit then none
  else
    let v : Int := exponentValue rest
    some (if negative then -v else v)

/-- A decimal literal without sign: digits, an optional point with digits, at least one digit
in all, and an optional exponent. The answer is the digits' value and the power of ten. -/
def decimalLiteral (cs : List Char) : Option (Nat × Int) :=
  let (whole, rest) := cs.span Char.isDigit
  let (fraction, rest) := match rest with
    | '.' :: more => more.span Char.isDigit
    | _ => ([], rest)
  if whole.length + fraction.length = 0 then none
  else
    let value := digitsValue (whole ++ fraction)
    match rest with
    | [] => some (value, -(fraction.length : Int))
    | c :: more =>
      if c = 'e' ∨ c = 'E' then
        (exponentPart more).map fun e => (value, e - fraction.length)
      else none

/-- The special values, spelled in any case. -/
def specialValue (negative : Bool) (cs : List Char) : Option Float :=
  let word := String.ofList (cs.map Char.toLower)
  if word = "nan" then some (if negative then -quietNaN else quietNaN)
  else if word = "inf" ∨ word = "infinity" then some (signedInfinity negative)
  else none

/-- A float literal: an optional sign, then a decimal literal or one of `nan`, `inf`,
`infinity` in any case. -/
def readFloat (s : String) : Except FloatSyntax Float :=
  match s.toList with
  | [] => .error .empty
  | c :: rest =>
    let (negative, body) :=
      if c = '-' then (true, rest) else if c = '+' then (false, rest) else (false, c :: rest)
    if body.isEmpty then .error .invalid
    else match decimalLiteral body with
      | some (digits, exp) => .ok (Binary64.ofDecimal negative digits exp)
      | none => match specialValue negative body with
        | some f => .ok f
        | none => .error .invalid

end CameraAcquisition.Text
