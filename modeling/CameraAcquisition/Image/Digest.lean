import CameraAcquisition.Image

/-!
# Digests of byte strings

A digest stands for a possibly large byte string in a report: its length, its 64-bit FNV-1a
hash and its first eight bytes.

## What this module delivers

- `fnv1a`: the 64-bit FNV-1a hash (offset basis `0xcbf29ce484222325`, prime `0x100000001b3`,
  multiplication modulo `2^64`).
- `Digest`, `Digest.of` and `Digest.hashText`, the hash as sixteen lowercase hex digits.
-/

set_option autoImplicit false

namespace CameraAcquisition.Image

/-- The 64-bit FNV-1a hash of a byte string. -/
def fnv1a (b : ByteArray) : UInt64 :=
  b.foldl (fun h x => (h ^^^ x.toUInt64) * 0x100000001b3) 0xcbf29ce484222325

/-- A summary of a byte string: its length, its hash and its first bytes. -/
structure Digest where
  size : Nat
  hash : UInt64
  head : List UInt8
  deriving Repr, BEq, DecidableEq, Inhabited

namespace Digest

/-- The digest of a byte string; the head holds at most eight bytes. -/
def of (b : ByteArray) : Digest :=
  { size := b.size, hash := fnv1a b, head := (b.extract 0 8).toList }

/-- Lowercase hex digit of a value below sixteen. -/
def hexDigit (n : Nat) : Char :=
  if n < 10 then Char.ofNat (48 + n) else Char.ofNat (87 + n)

/-- The hash as sixteen lowercase hex digits, most significant first. -/
def hashText (d : Digest) : String :=
  let v := d.hash.toNat
  String.ofList ((List.range 16).reverse.map fun k => hexDigit (v / Nat.pow 16 k % 16))

end Digest

end CameraAcquisition.Image
