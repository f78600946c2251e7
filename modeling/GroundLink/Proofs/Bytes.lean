import GroundLink.Bytes

/-!
# The two bytes of a number

A number of sixteen bits is its high byte and its low byte, whichever of them
comes first in a text or on a wire.
-/

namespace GroundLink

namespace Bytes

variable (hi lo : UInt8) (n : UInt16)

/-- Two bytes as one number, the high one first. -/
theorem toNat_pair :
    ((hi.toUInt16 <<< 8) ||| lo.toUInt16).toNat =
      256 * hi.toNat + lo.toNat := by
  have hlo : lo.toNat < 2 ^ 8 := lo.toNat_lt
  have hhi : hi.toNat < 256 := hi.toNat_lt
  have hor := Nat.two_pow_add_eq_or_of_lt hlo hi.toNat
  have hup : hi.toNat <<< 8 % 2 ^ 16 = 2 ^ 8 * hi.toNat := by
    rw [Nat.shiftLeft_eq]
    omega
  have height : UInt16.toNat 8 % 16 = 8 := rfl
  rw [UInt16.toNat_or, UInt8.toNat_toUInt16, UInt16.toNat_shiftLeft,
    UInt8.toNat_toUInt16, height, hup, ← hor]

/-- The low byte of a number. -/
theorem toNat_low : n.toUInt8.toNat = n.toNat % 256 := by simp

/-- The high byte of a number. -/
theorem toNat_high : (n >>> 8).toUInt8.toNat = n.toNat / 256 := by
  have hn : n.toNat < 65536 := n.toNat_lt
  simp [Nat.shiftRight_eq_div_pow]
  omega

/-- The two bytes of a number put together again. -/
theorem pair_high_low :
    ((n >>> 8).toUInt8.toUInt16 <<< 8) ||| n.toUInt8.toUInt16 = n := by
  apply UInt16.toNat_inj.mp
  rw [toNat_pair, toNat_high, toNat_low]
  omega

/-- The low byte of two is the second. -/
theorem low_pair : ((hi.toUInt16 <<< 8) ||| lo.toUInt16).toUInt8 = lo := by
  have hlo : lo.toNat < 256 := lo.toNat_lt
  apply UInt8.toNat_inj.mp
  rw [toNat_low, toNat_pair]
  omega

/-- The high byte of two is the first. -/
theorem high_pair :
    (((hi.toUInt16 <<< 8) ||| lo.toUInt16) >>> 8).toUInt8 = hi := by
  have hlo : lo.toNat < 256 := lo.toNat_lt
  have hhi : hi.toNat < 256 := hi.toNat_lt
  apply UInt8.toNat_inj.mp
  rw [toNat_high, toNat_pair]
  omega

end Bytes

end GroundLink
