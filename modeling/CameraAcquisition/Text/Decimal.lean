/-!
# Shortest decimal text of a binary64 value

A finite double is `m · 2^q`. Every real number strictly inside the half-way points to its
two neighbours reads back as the same double; the end points read back to it too when `m`
is even, since ties go to the even mantissa. This module finds the decimal `d · 10^e` with
the fewest significant digits in that interval, and of those the one nearest to the value,
all in exact `Nat` arithmetic. It then writes such a decimal in plain positional notation.

## What this module delivers

- `Binary64.classify`: a word read as NaN, an infinity or a finite signed value.
- `Decimal.shortest`: the shortest digits of a finite double.
- `Notation` and `Notation.render`: how a value is spelled (positional digits, spelling of
  NaN and infinities, whether an integral value keeps a `.0`), with the two spellings this
  library prints: `Notation.plain` and `Notation.withPoint`.
-/

set_option autoImplicit false

namespace CameraAcquisition.Text

/-- A decimal number `digits · 10^exp` with a sign. -/
structure Decimal where
  negative : Bool
  digits : Nat
  exp : Int
  deriving Repr, BEq, DecidableEq

/-- What a binary64 word stands for. -/
inductive Binary64 where
  | nan
  | infinite (negative : Bool)
  | finite (negative : Bool) (mantissa : Nat) (exponent : Int) (tightBelow : Bool)
  deriving Repr, BEq, DecidableEq

namespace Binary64

/-- Splits a word into sign, exponent field and fraction field. A finite value is
`mantissa · 2^exponent`; `tightBelow` marks the normal values with an empty fraction, whose
lower neighbour is only half as far away as the upper one. -/
def classify (bits : UInt64) : Binary64 :=
  let raw := bits.toNat
  let negative := decide (Nat.pow 2 63 ≤ raw)
  let field : Nat := (raw / Nat.pow 2 52) % Nat.pow 2 11
  let fraction : Nat := raw % Nat.pow 2 52
  if field = 2047 then
    if fraction = 0 then .infinite negative else .nan
  else if field = 0 then
    .finite negative fraction (-1074) false
  else
    .finite negative (Nat.pow 2 52 + fraction) ((field : Int) - 1075) (decide (field > 1 ∧ fraction = 0))

end Binary64

/-- The number of decimal digits of `n` (one for zero). -/
def digitCount (n : Nat) : Nat :=
  (Nat.toDigits 10 n).length

/-- The value and the distances to the two ends of its rounding interval, all scaled by
`10^scale` so that they are whole numbers. -/
structure Interval where
  value : Nat
  below : Nat
  above : Nat
  scale : Nat
  closed : Bool

/-- The rounding interval of `mantissa · 2^exponent`. The ends lie half an ulp away, or a
quarter ulp below when `tightBelow`; they belong to the interval when the mantissa is even. -/
def Interval.ofBinary (mantissa : Nat) (exponent : Int) (tightBelow : Bool) : Interval :=
  if exponent ≥ 2 then
    let k := (exponent - 2).toNat
    { value := mantissa * Nat.pow 2 (k + 2)
      below := if tightBelow then Nat.pow 2 k else Nat.pow 2 (k + 1)
      above := Nat.pow 2 (k + 1)
      scale := 0
      closed := mantissa % 2 == 0 }
  else
    let t := (2 - exponent).toNat
    { value := mantissa * 4 * Nat.pow 5 t
      below := if tightBelow then Nat.pow 5 t else 2 * Nat.pow 5 t
      above := 2 * Nat.pow 5 t
      scale := t
      closed := mantissa % 2 == 0 }

/-- Whether a scaled candidate lies in the interval. -/
def Interval.admits (i : Interval) (c : Nat) : Bool :=
  if i.closed then
    decide (i.value ≤ c + i.below ∧ c ≤ i.value + i.above)
  else
    decide (i.value < c + i.below ∧ c < i.value + i.above)

/-- Of the two grid points around `i.value` with spacing `step`, the admitted one nearest to
the value; a tie goes to the upper point. -/
def Interval.pick (i : Interval) (step : Nat) : Option Nat :=
  let lo := i.value / step * step
  let hi := lo + step
  match i.admits lo, i.admits hi with
  | true, true => if i.value - lo < hi - i.value then some lo else some hi
  | true, false => some lo
  | false, true => some hi
  | false, false => none

/-- Removes trailing zeros from `digits · 10^exp`. -/
def trimZeros (digits : Nat) (exp : Int) (fuel : Nat) : Nat × Int :=
  match fuel with
  | 0 => (digits, exp)
  | fuel + 1 =>
    if digits ≠ 0 ∧ digits % 10 = 0 then trimZeros (digits / 10) (exp + 1) fuel
    else (digits, exp)

/-- Searches the grids of `n`, `n + 1`, … significant digits, `fuel` grids at most. -/
def Interval.search (i : Interval) (len n fuel : Nat) : Option (Nat × Int) :=
  match fuel with
  | 0 => none
  | fuel + 1 =>
    let step := Nat.pow 10 (len - n)
    match i.pick step with
    | some c => some (c / step, (len : Int) - n - i.scale)
    | none => i.search len (n + 1) fuel

namespace Decimal

/-- The shortest decimal that reads back as `mantissa · 2^exponent`. Seventeen digits
always suffice; the full digit string of the value is the last resort. -/
def shortest (negative : Bool) (mantissa : Nat) (exponent : Int) (tightBelow : Bool) :
    Decimal :=
  let i := Interval.ofBinary mantissa exponent tightBelow
  let len := digitCount i.value
  let (d, e) := (i.search len 1 len).getD (i.value, -(i.scale : Int))
  let (d, e) := trimZeros d e (digitCount d)
  { negative, digits := d, exp := e }

end Decimal

/-- How a double is spelled: digits are always positional; `nan` and `infinity` are the
words for the special values; `pointed` appends `.0` to a finite value written without a
decimal point. -/
structure Notation where
  nan : String
  infinity : String
  pointed : Bool

namespace Notation

/-- Plain positional text: `60`, `0.001`, `-0`, `NaN`, `inf`. -/
def plain : Notation := { nan := "NaN", infinity := "inf", pointed := false }

/-- The same text, with `.0` after an integral value: `60.0`. -/
def withPoint : Notation := { plain with pointed := true }

/-- Positional digits of `d · 10^e` without sign. -/
def positional (digits : Nat) (exp : Int) : String :=
  let s := toString digits
  if exp ≥ 0 then
    s ++ String.ofList (List.replicate exp.toNat '0')
  else
    let k := s.length
    let shift := (-exp).toNat
    if shift < k then
      String.ofList (s.toList.take (k - shift)) ++ "." ++ String.ofList (s.toList.drop (k - shift))
    else
      "0." ++ String.ofList (List.replicate (shift - k) '0') ++ s

/-- Writes a double in this notation. -/
def render (n : Notation) (x : Float) : String :=
  match Binary64.classify x.toBits with
  | .nan => n.nan
  | .infinite neg => if neg then "-" ++ n.infinity else n.infinity
  | .finite neg m q tight =>
    let d := if m = 0 then { negative := neg, digits := 0, exp := 0 }
      else Decimal.shortest neg m q tight
    let body := positional d.digits d.exp
    let body := if n.pointed ∧ !body.contains '.' then body ++ ".0" else body
    if d.negative then "-" ++ body else body

end Notation

/-- Writes a double as plain positional text (`60`, `0.01`, `-0`, `inf`, `NaN`). -/
def showFloat (x : Float) : String :=
  Notation.plain.render x

/-- Writes a double as positional text that always shows a decimal point when finite. -/
def showFloatPointed (x : Float) : String :=
  Notation.withPoint.render x

end CameraAcquisition.Text
