/-!
# White space

The characters that Unicode 17.0 gives the property `White_Space`: the ASCII controls from tab
to carriage return, the space, the next-line control, the no-break spaces, the Ogham space
mark, the spaces from the en quad to the hair space, the line and paragraph separators, the
medium mathematical space and the ideographic space. Trimming a text removes them from both
ends.

## What this module delivers

- `isWhiteSpace`: whether a character is white space.
- `trimWhiteSpace`: a text without white space at either end.
-/

set_option autoImplicit false

namespace CameraAcquisition.Text

/-- Whether a character is white space. -/
def isWhiteSpace (c : Char) : Bool :=
  let n := c.toNat
  (0x09 ≤ n && n ≤ 0x0d) || n == 0x20 || n == 0x85 || n == 0xa0 || n == 0x1680 ||
    (0x2000 ≤ n && n ≤ 0x200a) || n == 0x2028 || n == 0x2029 || n == 0x202f || n == 0x205f ||
    n == 0x3000

/-- A text without white space at either end. -/
def trimWhiteSpace (s : String) : String :=
  String.ofList ((s.toList.dropWhile isWhiteSpace).reverse.dropWhile isWhiteSpace).reverse

end CameraAcquisition.Text
