import GroundLink.Bytes

/-!
# Endpoints

An endpoint is the near end of whatever a link talks over.  It never waits: a
read gives what is there, a write takes what fits, and either may fail.  Some
faults mean that the other side is gone for good (`Fault.isClosed`).
-/

namespace GroundLink

/-- What an endpoint is an end of. -/
inductive Transport
  | tcp
  | udp
  | serial
  | memory
deriving Repr, DecidableEq

def Transport.name : Transport → String
  | .tcp => "tcp"
  | .udp => "udp"
  | .serial => "serial"
  | .memory => "memory"

def Transport.ofName? : String → Option Transport
  | "tcp" => some .tcp
  | "udp" => some .udp
  | "serial" => some .serial
  | "memory" => some .memory
  | _ => none

/-- A kind of read or write fault: those that end a connection each by their
own name, any other by the name that the system has for it. -/
inductive Fault
  | unexpectedEof
  | connectionReset
  | connectionAborted
  | brokenPipe
  | notConnected
  | other (name : String)
deriving Repr, DecidableEq

namespace Fault

def ofName : String → Fault
  | "UnexpectedEof" => .unexpectedEof
  | "ConnectionReset" => .connectionReset
  | "ConnectionAborted" => .connectionAborted
  | "BrokenPipe" => .brokenPipe
  | "NotConnected" => .notConnected
  | name => .other name

def name : Fault → String
  | .unexpectedEof => "UnexpectedEof"
  | .connectionReset => "ConnectionReset"
  | .connectionAborted => "ConnectionAborted"
  | .brokenPipe => "BrokenPipe"
  | .notConnected => "NotConnected"
  | .other name => name

/-- The text of a fault of the in-memory pipe; of the others only the name is
known. -/
def message : Fault → String
  | .unexpectedEof => "unexpected end of file"
  | .brokenPipe => "broken pipe"
  | fault => fault.name

/-- Whether the fault says that the other side is gone for good. -/
def isClosed : Fault → Bool
  | .other _ => false
  | _ => true

end Fault

/-- The near end of a connection, as a value: each operation gives the answer
and the endpoint as it is afterwards. -/
class Endpoint (ε : Type) where
  transport : ε → Transport
  /-- Up to `n` bytes that have arrived; none if there are none yet. -/
  read : ε → (n : Nat) → ε × Except Fault Bytes
  /-- Offers bytes; the answer is how many of them were taken. -/
  write : ε → Bytes → ε × Except Fault Nat

end GroundLink
