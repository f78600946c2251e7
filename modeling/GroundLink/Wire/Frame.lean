import GroundLink.Wire.Checksum
import GroundLink.Wire.Message

/-!
# Frames

A frame is a message with the header of its sender, in one of two versions of
the wire format.  Both begin with a start byte of their own and the length of
the payload, and end with the checksum of everything between the start byte
and itself.  The first version names a message by one byte and sends its
payload in full; the second has two flag bytes, names a message by three bytes
and leaves out the zeros at the end of the payload, all but the first byte.
-/

namespace GroundLink

/-- The versions of the wire format. -/
inductive Version
  | v1
  | v2
deriving Repr, DecidableEq

/-- The number by which a version is known. -/
def Version.number : Version → Nat
  | .v1 => 1
  | .v2 => 2

/-- The byte with which frames of a version begin. -/
def Version.startByte : Version → UInt8
  | .v1 => 0xFE
  | .v2 => 0xFD

/-- Who sends, and which of its frames this is. -/
structure Header where
  system : UInt8
  component : UInt8
  sequence : UInt8
deriving Repr, DecidableEq

/-- One frame. -/
structure Frame where
  version : Version
  header : Header
  message : Message
deriving Repr, DecidableEq

namespace Frame

def isHeartbeat (f : Frame) : Bool := f.message.isHeartbeat

/-- The payload as the second version sends it: without the zeros at its end,
but never without its first byte. -/
def trim (payload : Bytes) : Bytes :=
  match Bytes.dropTrailingZeros payload with
  | [] => payload.take 1
  | kept => kept

/-- The bytes that the checksum covers. -/
def covered (f : Frame) : Bytes :=
  let h := f.header
  let m := f.message
  match f.version with
  | .v1 =>
      UInt8.ofNat m.payload.length :: h.sequence :: h.system :: h.component
        :: UInt8.ofNat m.id :: m.payload
  | .v2 =>
      let payload := trim m.payload
      UInt8.ofNat payload.length :: 0 :: 0 :: h.sequence :: h.system ::
        h.component
        :: (Bytes.ofLe 3 m.id ++ payload)

/-- The frame as it goes on the wire. -/
def encode (f : Frame) : Bytes :=
  f.version.startByte ::
    (f.covered ++ Checksum.toBytes
      (Checksum.frame f.covered (Dialect.crcExtra f.message.id)))

end Frame

end GroundLink
