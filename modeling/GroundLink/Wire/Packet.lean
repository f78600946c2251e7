import GroundLink.Wire.Decoder

/-!
# Packets

A packet is any run of bytes that may stand for a frame on the wire: it has the
length that its own header announces and a right checksum.  `Frame.encode` makes
some of them and other senders make others.  A payload may be longer or shorter
than the message asks for, the flag bytes may hold anything, and a signature
follows where they say so.  Nothing is asked of the number of the message or of
the values in the payload.
-/

namespace GroundLink

/-- How many bytes of signature the flags announce. -/
def Envelope.signatureOf (flags : UInt8) : Nat :=
  if isSigned flags then signatureLength else 0

/-- What a version puts on the wire beside header and payload. -/
inductive Framing
  /-- The number of the message has one byte. -/
  | v1 (id : UInt8)
  /-- There are two flag bytes, and the number has three bytes, the low one
  first. -/
  | v2 (flags compat low middle high : UInt8) (signature : Bytes)
      (signed : signature.length = Envelope.signatureOf flags)

/-- A frame on the wire, as any sender may put it there. -/
structure Packet where
  framing : Framing
  header : Header
  payload : Bytes
  length_le : payload.length ≤ 255

namespace Packet

variable (p : Packet)

def version : Version :=
  match p.framing with
  | .v1 _ => .v1
  | .v2 .. => .v2

/-- The number of the message. -/
def id : Nat :=
  match p.framing with
  | .v1 id => id.toNat
  | .v2 _ _ low middle high _ _ => Bytes.leValue [low, middle, high]

/-- The bytes that the checksum covers. -/
def covered : Bytes :=
  let h := p.header
  match p.framing with
  | .v1 id =>
      UInt8.ofNat p.payload.length :: h.sequence :: h.system :: h.component ::
        id :: p.payload
  | .v2 flags compat low middle high _ _ =>
      UInt8.ofNat p.payload.length :: flags :: compat :: h.sequence ::
        h.system :: h.component
        :: low :: middle :: high :: p.payload

/-- What stands behind the checksum. -/
def signature : Bytes :=
  match p.framing with
  | .v1 _ => []
  | .v2 _ _ _ _ _ signature _ => signature

/-- The checksum that the covered bytes and the message ask for. -/
def checksum : UInt16 := Checksum.frame p.covered (Dialect.crcExtra p.id)

/-- The packet as it stands on the wire. -/
def bytes : Bytes :=
  p.version.startByte ::
    (p.covered ++ (Checksum.toBytes p.checksum ++ p.signature))

/-- The frame that the packet stands for, if its message can be parsed. -/
def frame? : Option Frame :=
  match Message.parse p.id p.payload with
  | .ok message => some ⟨p.version, p.header, message⟩
  | .error _ => none

/-- The packet stands for a frame exactly if its message can be parsed, and the
frame has its version, its header and that message. -/
theorem frame?_eq_some_iff {f : Frame} :
    p.frame? = some f ↔
      f.version = p.version ∧ f.header = p.header ∧
        Message.parse p.id p.payload = .ok f.message := by
  unfold frame?
  cases hparse : Message.parse p.id p.payload with
  | error fault => simp
  | ok message =>
      obtain ⟨version, header, message'⟩ := f
      simp only [Option.some.injEq, Frame.mk.injEq, Except.ok.injEq]
      constructor
      · rintro ⟨rfl, rfl, rfl⟩
        exact ⟨rfl, rfl, rfl⟩
      · rintro ⟨rfl, rfl, rfl⟩
        exact ⟨rfl, rfl, rfl⟩

end Packet

end GroundLink
