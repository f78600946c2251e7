import GroundLink.Wire.Envelope

/-!
# The stream decoder

A decoder is fed a stream one byte at a time.  Outside a frame it throws away
every byte that is not a start byte.  From a start byte on it collects as many
bytes as the header announces; then the frame is read, and whatever comes of
that, the collected bytes are gone and count as one frame or one error.
-/

namespace GroundLink

/-- What became of the bytes so far. -/
structure DecoderStats where
  frames : Nat := 0
  parseErrors : Nat := 0
  discarded : Nat := 0
deriving Repr, DecidableEq

/-- A decoder: the bytes of the frame it is in, and its counters. -/
structure Decoder where
  buffer : Bytes := []
  stats : DecoderStats := {}
deriving Repr, DecidableEq

/-- The length that the beginning of a frame announces for the whole of it,
once enough of the header is there to say. -/
def announcedLength : Bytes → Option Nat
  | start :: length :: rest =>
      if start = Version.v1.startByte then some (8 + length.toNat)
      else
        match rest with
        | [] => none
        | flags :: _ =>
            some (12 + length.toNat
              + if Envelope.isSigned flags then Envelope.signatureLength else 0)
  | _ => none

/-- Whether a frame can begin with this byte. -/
def isStartByte (b : UInt8) : Bool :=
  b == Version.v1.startByte || b == Version.v2.startByte

/-- The version of the frame that begins with these bytes. -/
def leadingVersion : Bytes → Version
  | start :: _ => if start = Version.v1.startByte then .v1 else .v2
  | [] => .v2

namespace Decoder

/-- Whether the collected bytes are a whole frame. -/
def isComplete (buffer : Bytes) : Bool :=
  (announcedLength buffer).any (· ≤ buffer.length)

/-- Reads the collected frame and forgets its bytes. -/
def finish (d : Decoder) : Decoder × Option Frame :=
  match Frame.find? (leadingVersion d.buffer) d.buffer with
  | some f =>
      ({ buffer := [], stats := { d.stats with frames := d.stats.frames + 1 } },
        some f)
  | none =>
      ({ buffer := []
         stats := { d.stats with parseErrors := d.stats.parseErrors + 1 } },
        none)

/-- Takes one byte; the answer is the frame that it completes. -/
def push (d : Decoder) (b : UInt8) : Decoder × Option Frame :=
  if d.buffer.isEmpty && ! isStartByte b then
    ({ d with stats := { d.stats with discarded := d.stats.discarded + 1 } },
      none)
  else
    let d := { d with buffer := d.buffer ++ [b] }
    if isComplete d.buffer then d.finish else (d, none)

/-- Takes a run of bytes; the answers are the frames that they complete, in
order. -/
def pushAll (d : Decoder) : Bytes → Decoder × List Frame
  | [] => (d, [])
  | b :: rest =>
      let (d, frame) := d.push b
      let (d, frames) := pushAll d rest
      (d, frame.toList ++ frames)

/-- Forgets the frame it is in, but not the counters. -/
def reset (d : Decoder) : Decoder := { d with buffer := [] }

@[simp] theorem pushAll_nil (d : Decoder) : d.pushAll [] = (d, []) := rfl

/-- **How a stream is cut does not matter.** -/
theorem pushAll_append (d : Decoder) (as bs : Bytes) :
    d.pushAll (as ++ bs) =
      (((d.pushAll as).1.pushAll bs).1,
        (d.pushAll as).2 ++ ((d.pushAll as).1.pushAll bs).2) := by
  induction as generalizing d with
  | nil => rfl
  | cons a as ih => simp [pushAll, ih]

end Decoder

end GroundLink
