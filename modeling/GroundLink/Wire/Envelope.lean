import GroundLink.Wire.Frame

/-!
# Reading a frame

An envelope is a frame as it stands on the wire, split along the lengths that
its header announces, before anyone has looked at the checksum or the message.
`Frame.find?` searches bytes for a frame of one version: it takes the next
start byte and opens the envelope behind it.  If the bytes run out there is no
frame; if the checksum is wrong the search goes on at the byte behind that
start byte; if it is right, that message is the answer, good or bad.
-/

namespace GroundLink

/-- A frame split into its parts, unchecked. -/
structure Envelope where
  header : Header
  /-- The number of the message. -/
  id : Nat
  payload : Bytes
  /-- The bytes that the checksum covers. -/
  covered : Bytes
  checksum : UInt16
deriving Repr, DecidableEq

namespace Envelope

/-- The flag that says that a signature follows the checksum. -/
def signedFlag : UInt8 := 1

/-- The length of a signature. -/
def signatureLength : Nat := 13

def isSigned (flags : UInt8) : Bool := flags &&& signedFlag != 0

/-- Splits the bytes behind a start byte; `none` if they run out. -/
def open? (version : Version) (bytes : Bytes) : Option Envelope :=
  match version, bytes with
  | .v1, length :: sequence :: system :: component :: id :: body =>
      match body.drop length.toNat with
      | lo :: hi :: _ =>
          some { header := ⟨system, component, sequence⟩
                 id := id.toNat
                 payload := body.take length.toNat
                 covered := bytes.take (5 + length.toNat)
                 checksum := Checksum.ofBytes lo hi }
      | _ => none
  | .v2, length :: flags :: _ :: sequence :: system :: component :: i :: j ::
    k :: body =>
      match body.drop length.toNat with
      | lo :: hi :: rest =>
          if isSigned flags && rest.length < signatureLength then none
          else
            some { header := ⟨system, component, sequence⟩
                   id := Bytes.leValue [i, j, k]
                   payload := body.take length.toNat
                   covered := bytes.take (9 + length.toNat)
                   checksum := Checksum.ofBytes lo hi }
      | _ => none
  | _, _ => none

/-- Whether the checksum is the one that the covered bytes and the message ask
for. -/
def isIntact (e : Envelope) : Bool :=
  e.checksum == Checksum.frame e.covered (Dialect.crcExtra e.id)

/-- The frame in the envelope, if its message can be parsed. -/
def frame? (version : Version) (e : Envelope) : Option Frame :=
  match Message.parse e.id e.payload with
  | .ok message => some ⟨version, e.header, message⟩
  | .error _ => none

end Envelope

/-- Searches for an intact frame of that version. -/
def Frame.find? (version : Version) : Bytes → Option Frame
  | [] => none
  | b :: rest =>
      if b = version.startByte then
        match Envelope.open? version rest with
        | none => none
        | some e => if e.isIntact then e.frame? version else find? version rest
      else find? version rest

end GroundLink
