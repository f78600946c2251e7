/-!
# Byte strings

Everything that crosses a link is a list of bytes.  Numbers stand in it low
byte first: `leValue` reads them and `ofLe` writes them.
-/

namespace GroundLink

/-- A run of bytes on a wire or in a queue, first byte first. -/
abbrev Bytes := List UInt8

namespace Bytes

/-- The number that a field holds, low byte first. -/
def leValue : Bytes → Nat
  | [] => 0
  | b :: rest => b.toNat + 256 * leValue rest

/-- The low `width` bytes of `n`, low byte first. -/
def ofLe : (width : Nat) → Nat → Bytes
  | 0, _ => []
  | width + 1, n => UInt8.ofNat n :: ofLe width (n / 256)

/-- Exactly `n` bytes: what is missing is zero, what is too much is cut. -/
def fit (n : Nat) (bs : Bytes) : Bytes :=
  bs.take n ++ List.replicate (n - bs.length) 0

/-- The `width` bytes that start at `offset`. -/
def slice (offset width : Nat) (bs : Bytes) : Bytes :=
  (bs.drop offset).take width

/-- `bs` with the bytes from `offset` on overwritten by `field`. -/
def splice (offset : Nat) (field bs : Bytes) : Bytes :=
  bs.take offset ++ field ++ bs.drop (offset + field.length)

/-- `bs` without the zero bytes at its end. -/
def dropTrailingZeros (bs : Bytes) : Bytes :=
  (bs.reverse.dropWhile (· == 0)).reverse

@[simp] theorem length_ofLe (width n : Nat) :
    (ofLe width n).length = width := by
  induction width generalizing n with
  | zero => rfl
  | succ width ih => simp [ofLe, ih]

@[simp] theorem length_fit (n : Nat) (bs : Bytes) : (fit n bs).length = n := by
  simp only [fit, List.length_append, List.length_take, List.length_replicate]
  omega

end Bytes

end GroundLink
