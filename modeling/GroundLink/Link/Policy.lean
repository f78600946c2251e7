/-!
# How a link behaves

A policy says when a link gives up and when its channel becomes active; the
settings say how often it polls, how long it waits for a heartbeat, and how
much it moves in one go.  Durations are in nanoseconds.
-/

namespace GroundLink

/-- One millisecond. -/
def millisecond : Nat := 1000000

/-- One second. -/
def second : Nat := 1000000000

/-- When a link gives up, and from when on its channel is active. -/
structure Policy where
  /-- Give up when a write fails. -/
  exitOnError : Bool := false
  /-- Give up when the deadline for a heartbeat passes. -/
  exitOnIdle : Bool := false
  /-- Activate the channel with the heartbeats, not from the beginning. -/
  waitForHeartbeat : Bool := true
deriving Repr, DecidableEq

namespace Policy

/-- For a connection that ends with its first failed write. -/
def tcp : Policy := { exitOnError := true }

/-- For a socket that has no connection to lose. -/
def udp : Policy := {}

/-- For a line that may go quiet and come back. -/
def serial : Policy := {}

end Policy

/-- The settings that all links of a station share. -/
structure LinkConfig where
  /-- Time from one poll to the next. -/
  pollInterval : Nat := 10 * millisecond
  /-- How long a link counts as active after a heartbeat. -/
  heartbeatTimeout : Nat := 5 * second
  /-- Bytes taken from the channel for one write. -/
  writeChunk : Nat := 256
  /-- Bytes read at most in one poll. -/
  readBuffer : Nat := 256
deriving Repr, DecidableEq

/-- The priority that active links ask for where nobody chose one. -/
def defaultPriority : Nat := 5

/-- How the threads of active links are treated. -/
inductive Priority
  /-- They are left alone. -/
  | unchanged
  /-- They ask for a priority of their own. -/
  | realtime (priority : Nat)
deriving Repr, DecidableEq

/-- Whether every link has to run on a thread of its own. -/
def Priority.wantsOwnThread : Priority → Bool
  | .unchanged => false
  | .realtime _ => true

end GroundLink
