/-!
# Arithmetic on 32-bit words

The camera library computes region geometry on unsigned 32-bit words. A sum or a product that
does not fit in a word stops the program with a panic; it never wraps. `addWord` and `mulWord`
are those operations: they give the exact result when it fits, and the overflow otherwise.

## What this module delivers

- `wordSize`, `Overflow` with `Overflow.message`.
- `addWord` and `mulWord`.
-/

set_option autoImplicit false

namespace CameraAcquisition

/-- The number of values of a 32-bit word: a word holds the numbers below it. -/
def wordSize : Nat := Nat.pow 2 32

/-- An operation on words whose exact result does not fit in a word. -/
inductive Overflow where
  | add
  | mul
  deriving Repr, BEq, DecidableEq, Inhabited

/-- The text of the panic that an overflow stops the program with. -/
def Overflow.message : Overflow → String
  | .add => "attempt to add with overflow"
  | .mul => "attempt to multiply with overflow"

/-- The sum of two words. -/
def addWord (a b : Nat) : Except Overflow Nat :=
  if a + b < wordSize then .ok (a + b) else .error .add

/-- The product of two words. -/
def mulWord (a b : Nat) : Except Overflow Nat :=
  if a * b < wordSize then .ok (a * b) else .error .mul

end CameraAcquisition
