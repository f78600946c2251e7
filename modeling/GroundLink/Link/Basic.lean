import GroundLink.Channel.Pool
import GroundLink.Error
import GroundLink.Link.Policy
import GroundLink.Port.Endpoint
import GroundLink.Presence.Failsafe
import GroundLink.Presence.Tracker
import GroundLink.Wire.Decoder

/-!
# Links

A link holds one channel for one endpoint, from the moment it is connected
until it ends or is dropped:

    starting ── first heartbeat ──▶ active ◀── heartbeat ──┐
        │                             │                    │
        │                          timeout                 │
        │                             ▼                    │
        │                            idle ─────────────────┘
        └── fault, end, eviction, idle exit ──▶ terminated

All links of a station share a `Board`: the pool of channels and the count of
active links.
-/

namespace GroundLink

/-- Where a link is in its life. -/
inductive LinkState
  /-- It has its channel, but no heartbeat has come yet. -/
  | starting
  | active
  /-- It was active, and the heartbeats have stopped. -/
  | idle
  | terminated
deriving Repr, DecidableEq

def LinkState.name : LinkState → String
  | .starting => "Starting"
  | .active => "Active"
  | .idle => "Idle"
  | .terminated => "Terminated"

/-- Why a link ended by itself. -/
inductive Exit
  | writeError
  | closed
  | idle
  /-- Its channel was given away. -/
  | evicted
deriving Repr, DecidableEq

def Exit.message : Exit → String
  | .writeError => "write error"
  | .closed => "closed by peer"
  | .idle => "idle"
  | .evicted => "evicted"

/-- What a link has counted. -/
structure LinkStats where
  bytesIn : Nat := 0
  bytesOut : Nat := 0
  framesIn : Nat := 0
  heartbeats : Nat := 0
  dispatchFailures : Nat := 0
  writeErrors : Nat := 0
  readErrors : Nat := 0
  parseErrors : Nat := 0
deriving Repr, DecidableEq

/-- Bytes received a second, over the whole seconds of `elapsed` nanoseconds. -/
def LinkStats.rxRate (s : LinkStats) (elapsed : Nat) : Nat :=
  let seconds := elapsed / second
  if 0 < seconds then s.bytesIn / seconds else 0

/-- One link, without its endpoint. -/
structure Link where
  name : String
  claim : Claim
  transport : Transport
  policy : Policy
  startedAt : Nat
  tracker : Tracker
  decoder : Decoder := {}
  stats : LinkStats := {}
  state : LinkState := .starting
  /-- Taken from the channel and not written yet. -/
  pending : Bytes := []
deriving Repr, DecidableEq

namespace Link

/-- A link on the channel that it has just claimed. -/
def connect (name : String) (claim : Claim) (transport : Transport)
    (policy : Policy) (config : LinkConfig) (now : Nat) : Link where
  name := name
  claim := claim
  transport := transport
  policy := policy
  startedAt := now
  tracker := .begin config.heartbeatTimeout now

/-- The channel that the link has, or had. -/
def channel (l : Link) : Nat := l.claim.index

end Link

/-- What the links of a station share. -/
structure Board where
  pool : Pool
  active : ActiveCount := {}
deriving Repr, DecidableEq

/-- What a link reports when it ends by itself. -/
structure Report where
  exit : Exit
  stats : LinkStats
  /-- Bytes received a second. -/
  rxRate : Nat
  /-- Time since it was connected, in nanoseconds. -/
  duration : Nat
deriving Repr, DecidableEq

/-- What a link calls its handler for, what it asks of the scheduler, and what
it reports. -/
inductive Event
  | begun (channel : Nat) (transport : Transport)
  | frame (frame : Frame) (verdict : Except Refusal Unit)
  /-- It asks for a higher priority. -/
  | raised
  /-- It asks for its old priority back. -/
  | lowered
  | activated
  | idled
  | terminated (report : Report)
  /-- The handler says how many frames it has seen. -/
  | frameTotal (frames : Nat)
  | ended

/-- Whether the event is that of a frame. -/
def Event.isFrame : Event → Bool
  | .frame .. => true
  | _ => false

end GroundLink
