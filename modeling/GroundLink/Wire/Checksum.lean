import GroundLink.Bytes

/-!
# The frame checksum

A sixteen bit cyclic redundancy check: the register starts with all bits set,
takes each byte in at its low end, the low bit first, and feeds a bit that
falls out back in as `0x8408`.  There is no final inversion.  It is kept as a
fold of one step a byte, and that step as eight steps a bit, because both are
one-to-one: what differs stays different.
-/

namespace GroundLink

namespace Checksum

/-- The register before the first byte. -/
def start : UInt16 := 0xFFFF

/-- Moves the register down by one bit; the bit that falls out is fed back. -/
def shift (r : UInt16) : UInt16 :=
  if r &&& 1 = 1 then (r >>> 1) ^^^ 0x8408 else r >>> 1

/-- Moves the register down by a whole byte. -/
def shiftByte (r : UInt16) : UInt16 :=
  shift (shift (shift (shift (shift (shift (shift (shift r)))))))

/-- Takes one byte in. -/
def step (r : UInt16) (b : UInt8) : UInt16 := shiftByte (r ^^^ b.toUInt16)

/-- Takes a run of bytes in. -/
def run (r : UInt16) (bs : Bytes) : UInt16 := bs.foldl step r

/-- The checksum of a frame: of the bytes it covers, then of the extra byte
that belongs to the message. -/
def frame (covered : Bytes) (extra : UInt8) : UInt16 :=
  step (run start covered) extra

/-- The two bytes of a checksum as they stand in a frame, the low one first. -/
def toBytes (c : UInt16) : Bytes := [c.toUInt8, (c >>> 8).toUInt8]

/-- The checksum that two bytes of a frame stand for. -/
def ofBytes (lo hi : UInt8) : UInt16 := lo.toUInt16 ||| (hi.toUInt16 <<< 8)

@[simp] theorem run_nil (r : UInt16) : run r [] = r := rfl

@[simp] theorem run_cons (r : UInt16) (b : UInt8) (bs : Bytes) :
    run r (b :: bs) = run (step r b) bs := rfl

theorem run_append (r : UInt16) (as bs : Bytes) :
    run r (as ++ bs) = run (run r as) bs :=
  List.foldl_append

@[simp] theorem length_toBytes (c : UInt16) : (toBytes c).length = 2 := rfl

end Checksum

end GroundLink
