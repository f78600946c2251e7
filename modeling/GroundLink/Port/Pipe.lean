import GroundLink.Port.Endpoint

/-!
# The in-memory pipe

A pipe has a near end, which is an endpoint, and a far end, the peer.  What the
peer sends is read as one stream, however it was cut.  What the endpoint
writes arrives at the peer in the pieces in which it was written.  The peer can
make writes fail, or limit how much one write takes.  Either end can go away.
-/

namespace GroundLink

/-- A pipe with both its ends. -/
structure Pipe where
  /-- Sent by the peer and not read yet. -/
  inbound : Bytes := []
  /-- Written by the endpoint and not taken yet, one entry a write. -/
  outbound : List Bytes := []
  failWrites : Bool := false
  /-- How much one write takes at most; `none` for no limit. -/
  writeLimit : Option Nat := none
  peerGone : Bool := false
  endpointGone : Bool := false
deriving Repr, DecidableEq

/-- What the peer finds when it asks for one write of the endpoint. -/
inductive Received
  | bytes (bytes : Bytes)
  | nothing
  | closed
deriving Repr, DecidableEq

namespace Pipe

variable (p : Pipe)

/-! ## The peer -/

/-- Sends to the endpoint; says whether anyone is there to read it. -/
def send (bytes : Bytes) : Pipe × Bool :=
  if p.endpointGone || p.peerGone then (p, false)
  else ({ p with inbound := p.inbound ++ bytes }, true)

/-- Takes everything that was written. -/
def takeWritten : Pipe × Bytes :=
  ({ p with outbound := [] }, p.outbound.flatten)

/-- Takes one write. -/
def receive : Pipe × Received :=
  match p.outbound with
  | bytes :: rest => ({ p with outbound := rest }, .bytes bytes)
  | [] => (p, if p.endpointGone then .closed else .nothing)

/-- The peer goes away; what it had not taken is lost. -/
def dropPeer : Pipe := { p with peerGone := true, outbound := [] }

/-! ## The endpoint -/

/-- Reads up to `n` bytes.  The end shows only once everything has been read. -/
def read (n : Nat) : Pipe × Except Fault Bytes :=
  if n = 0 then (p, .ok [])
  else if p.inbound.isEmpty && p.peerGone then (p, .error .unexpectedEof)
  else ({ p with inbound := p.inbound.drop n }, .ok (p.inbound.take n))

/-- How many of `n` offered bytes one write takes. -/
def accepts (n : Nat) : Nat :=
  match p.writeLimit with
  | none => n
  | some limit => min n limit

/-- Writes what one write takes.  Asked-for failures come first; that the peer
is gone shows only when there is something to pass on. -/
def write (bytes : Bytes) : Pipe × Except Fault Nat :=
  if p.failWrites then (p, .error .brokenPipe)
  else
    let n := p.accepts bytes.length
    if n = 0 then (p, .ok 0)
    else if p.peerGone then (p, .error .brokenPipe)
    else ({ p with outbound := p.outbound ++ [bytes.take n] }, .ok n)

/-- The endpoint goes away; what it had not read is lost. -/
def dropEndpoint : Pipe := { p with endpointGone := true, inbound := [] }

theorem accepts_le (n : Nat) : p.accepts n ≤ n := by
  unfold accepts
  split
  · exact Nat.le_refl _
  · exact Nat.min_le_left _ _

end Pipe

/-- The near end of a pipe that may pass for any transport, and whose reads may
be made to fail without taking anything. -/
structure Port where
  pipe : Pipe := {}
  transport : Transport := .memory
  readFault : Option Fault := none
deriving Repr, DecidableEq

instance : Endpoint Pipe where
  transport _ := .memory
  read := Pipe.read
  write := Pipe.write

instance : Endpoint Port where
  transport := Port.transport
  read p n :=
    match p.readFault with
    | some fault => (p, .error fault)
    | none =>
        let (pipe, answer) := p.pipe.read n
        ({ p with pipe }, answer)
  write p bytes :=
    let (pipe, answer) := p.pipe.write bytes
    ({ p with pipe }, answer)

end GroundLink
