import GroundLink.Wire.Checksum
import Mathlib.Logic.Function.Basic

/-!
# One byte makes a difference

The checksum register loses nothing when it moves down: the bit that falls out
comes back in at the top (`top_shift`), so that the register before can be told
from the one after (`shift_injective`).  So one byte more keeps registers apart
that were apart (`step_injective`), and different bytes drive equal registers
apart (`step_byte_injective`).  Bytes that differ in one place have different
checksums therefore, however many bytes come before that place and after it
(`eq_of_frame_set_eq`).
-/

namespace GroundLink.Checksum

/-- The low bit of the register. -/
theorem low_bit (r : UInt16) : r &&& 1 = 1 ↔ r.toNat % 2 = 1 := by
  rw [← UInt16.toNat_inj, UInt16.toNat_and]
  show r.toNat &&& 1 = 1 ↔ r.toNat % 2 = 1
  rw [Nat.and_one_is_mod]

/-- What stays in the register. -/
theorem toNat_half (r : UInt16) : (r >>> 1).toNat = r.toNat / 2 := by
  rw [UInt16.toNat_shiftRight]
  exact Nat.shiftRight_eq_div_pow r.toNat 1

/-- **The bit that falls out** comes back in at the top, which nothing else
reaches. -/
theorem top_shift (r : UInt16) :
    (shift r).toNat.testBit 15 = true ↔ r &&& 1 = 1 := by
  have hsmall : (r >>> 1).toNat.testBit 15 = false := by
    have hlt : r.toNat < 65536 := r.toNat_lt
    apply Nat.testBit_lt_two_pow
    rw [toNat_half]
    omega
  unfold shift
  split
  · next hlow =>
      have htop : (UInt16.toNat 0x8408).testBit 15 = true := by decide
      rw [UInt16.toNat_xor, Nat.testBit_xor, hsmall, htop]
      exact iff_of_true rfl hlow
  · next hlow => simp only [hsmall, hlow, Bool.false_eq_true]

/-- **Moving down by one bit** keeps different registers different. -/
theorem shift_injective : Function.Injective shift := by
  intro a b h
  have hlow : a &&& 1 = 1 ↔ b &&& 1 = 1 := by rw [← top_shift, ← top_shift, h]
  have hhalf : a >>> 1 = b >>> 1 := by
    unfold shift at h
    by_cases hone : a &&& 1 = 1
    · rw [if_pos hone, if_pos (hlow.mp hone)] at h
      exact (UInt16.xor_left_inj _).mp h
    · rwa [if_neg hone, if_neg (mt hlow.mpr hone)] at h
  have hnat := congrArg UInt16.toNat hhalf
  rw [toNat_half, toNat_half] at hnat
  rw [low_bit, low_bit] at hlow
  apply UInt16.toNat_inj.mp
  omega

theorem shiftByte_injective : Function.Injective shiftByte := by
  intro a b h
  unfold shiftByte at h
  simpa only [shift_injective.eq_iff] using h

/-- **Different registers** stay different when the same byte is taken in. -/
theorem step_injective (b : UInt8) : Function.Injective (step · b) := by
  intro r r' h
  exact (UInt16.xor_left_inj _).mp (shiftByte_injective h)

/-- **Different bytes** make the same register different. -/
theorem step_byte_injective (r : UInt16) : Function.Injective (step r) := by
  intro b b' h
  exact UInt8.toUInt16_inj.mp
    ((UInt16.xor_right_inj r).mp (shiftByte_injective h))

/-- Different registers stay different over any bytes. -/
theorem run_injective (bs : Bytes) : Function.Injective (run · bs) := by
  induction bs with
  | nil => exact fun _ _ h => h
  | cons b bs ih =>
      intro r r' h
      exact step_injective b (ih h)

/-- **Bytes that differ in one place** have different checksums. -/
theorem eq_of_frame_set_eq {bs : Bytes} {i : Nat} (hi : i < bs.length)
    {b : UInt8} {extra : UInt8}
    (h : frame (bs.set i b) extra = frame bs extra) :
    bs[i] = b := by
  have hbefore : bs = bs.take i ++ bs[i] :: bs.drop (i + 1) := by
    rw [List.getElem_cons_drop, List.take_append_drop]
  have hafter : bs.set i b = bs.take i ++ b :: bs.drop (i + 1) := by
    rw [List.set_eq_take_append_cons_drop, if_pos hi]
  have hrun : run start (bs.set i b) = run start bs := step_injective extra h
  rw [hafter, run_append, run_cons] at hrun
  conv at hrun => rhs; rw [hbefore, run_append, run_cons]
  exact (step_byte_injective _ (run_injective _ hrun)).symm

end GroundLink.Checksum
