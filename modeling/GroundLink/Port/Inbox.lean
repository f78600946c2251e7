import GroundLink.Port.Pipe

/-!
# The half of an endpoint that is read

What can be read from an endpoint may be a matter of one half of it, which
writes leave alone.  An `Inbox` names that half and says how it is read;
`Pipe.inbox` is that of the in-memory pipe, whose reads look at what the peer
has sent and at who is gone.
-/

namespace GroundLink

/-- A half of an endpoint that answers every read by itself and that no write
changes. -/
structure Inbox (ε ι : Type) [Endpoint ε] where
  of : ε → ι
  read : ι → (n : Nat) → ι × Except Fault Bytes
  read_of : ∀ e n,
    read (of e) n = (of (Endpoint.read e n).1, (Endpoint.read e n).2)
  write_of : ∀ e bytes, of (Endpoint.write e bytes).1 = of e

namespace Pipe

/-- The half of a pipe that is read. -/
def incoming (p : Pipe) : Pipe :=
  { inbound := p.inbound, peerGone := p.peerGone,
    endpointGone := p.endpointGone }

/-- A write changes nothing but what waits for the peer. -/
theorem incoming_write (p : Pipe) (bytes : Bytes) :
    (p.write bytes).1.incoming = p.incoming := by
  unfold Pipe.write
  split
  · rfl
  · dsimp only
    split
    · rfl
    · split <;> rfl

/-- A read is a matter of that half. -/
theorem read_incoming (p : Pipe) (n : Nat) :
    p.incoming.read n = ((p.read n).1.incoming, (p.read n).2) := by
  have hinbound : p.incoming.inbound = p.inbound := rfl
  have hgone : p.incoming.peerGone = p.peerGone := rfl
  unfold Pipe.read
  rw [hinbound, hgone]
  split
  · rfl
  · split <;> rfl

/-- What the peer has sent, and who is gone. -/
def inbox : Inbox Pipe Pipe where
  of := incoming
  read := Pipe.read
  read_of := read_incoming
  write_of := incoming_write

end Pipe

end GroundLink
