import GroundLink.Link.Basic
import GroundLink.Link.Handler

/-!
# A link at work

A `Turn` is a link together with all it can touch: the board it shares with the
others, its own endpoint, and the record of what it has done.  The life of a
link is `begin`, then a `tick` from time to time, then `finish` with the reason
that the last tick gave; a link can be dropped at any moment (`release`).

One tick looks in this order: is the channel still mine, can I write what it
holds, what can I read, is the other side still there.  The first of these that
ends the link decides, and nothing after it is looked at.
-/

namespace GroundLink

/-- A link with everything it can touch.  The record starts with the oldest
event. -/
structure Turn (ε : Type) where
  link : Link
  board : Board
  endpoint : ε
  events : List Event := []

namespace Turn

variable {ε : Type}

/-- Puts an event on record. -/
def note (t : Turn ε) (e : Event) : Turn ε :=
  { t with events := t.events ++ [e] }

/-- Changes the link's counters. -/
def count (t : Turn ε) (f : LinkStats → LinkStats) : Turn ε :=
  { t with link := { t.link with stats := f t.link.stats } }

/-- Sets the flag of the link's channel, if the channel is still the link's. -/
def setChannelActive (t : Turn ε) (active : Bool) : Turn ε :=
  { t with
    board := { t.board with
               pool := (t.board.pool.setClaimActive t.link.claim active).1 } }

/-! ## Beginning -/

/-- Signs the channel and, if the policy does not wait for a heartbeat,
activates it. -/
def begin (t : Turn ε) : Turn ε :=
  let pool := t.board.pool.setOwner t.link.channel t.link.name
  let t := { t with board := { t.board with pool } }
  let t := if t.link.policy.waitForHeartbeat then t else t.setChannelActive true
  t.note (.begun t.link.channel t.link.transport)

/-! ## Writing -/

/-- Takes the next chunk from the channel once the last one is gone. -/
def refill (chunk : Nat) (t : Turn ε) : Turn ε :=
  if t.link.pending.isEmpty then
    let (pool, bytes) := t.board.pool.drain t.link.channel chunk
    { t with
      board := { t.board with pool }, link := { t.link with pending := bytes } }
  else t

/-- Gives up the chunk at hand after a failed write, or the link, as the policy
says. -/
def writeFailed (t : Turn ε) : Turn ε × Option Exit :=
  let t := t.count fun s => { s with writeErrors := s.writeErrors + 1 }
  if t.link.policy.exitOnError then (t, some .writeError)
  else ({ t with link := { t.link with pending := [] } }, none)

/-- `n` bytes of the chunk have been written. -/
def wrote (n : Nat) (t : Turn ε) : Turn ε :=
  let t := t.count fun s => { s with bytesOut := s.bytesOut + n }
  { t with link := { t.link with pending := t.link.pending.drop n } }

/-- Writes chunk after chunk, at most `attempts` times, until nothing is left,
the endpoint takes nothing, or a write fails. -/
def drainWithin [Endpoint ε] (chunk : Nat) :
    (attempts : Nat) → Turn ε → Turn ε × Option Exit
  | 0, t => (t, none)
  | attempts + 1, t =>
      let t := t.refill chunk
      if t.link.pending.isEmpty then (t, none)
      else
        match Endpoint.write t.endpoint t.link.pending with
        | (endpoint, .ok 0) => ({ t with endpoint }, none)
        | (endpoint, .ok n) =>
            drainWithin chunk attempts (wrote n { t with endpoint })
        | (endpoint, .error _) => writeFailed { t with endpoint }

/-- The bytes that wait to be written, in the link and on its channel. -/
def unwritten (t : Turn ε) : Nat :=
  t.link.pending.length + t.board.pool.queued t.link.channel

/-- Writes all that can be written.  Every attempt but the last takes a byte,
so that there are no more attempts than bytes, and one look to see that
nothing is left. -/
def drain [Endpoint ε] (chunk : Nat) (t : Turn ε) : Turn ε × Option Exit :=
  drainWithin chunk (t.unwritten + 1) t

/-! ## Reading -/

/-- Reads once.  A closed endpoint ends the link, any other fault is counted. -/
def read [Endpoint ε] (size : Nat) (t : Turn ε) : Turn ε × Except Exit Bytes :=
  match Endpoint.read t.endpoint size with
  | (endpoint, .ok bytes) =>
      (count { t with endpoint } fun s =>
          { s with bytesIn := s.bytesIn + bytes.length },
        .ok bytes)
  | (endpoint, .error fault) =>
      let t := { t with endpoint }
      if fault.isClosed then (t, .error .closed)
      else (t.count fun s => { s with readErrors := s.readErrors + 1 }, .ok [])

/-- The link becomes active. -/
def activate (t : Turn ε) : Turn ε :=
  let t := { t with
    link := { t.link with state := .active }
    board := { t.board with active := t.board.active.raise } }
  let t := t.note .raised
  let t := if t.link.policy.waitForHeartbeat then t.setChannelActive true else t
  t.note .activated

/-- The link ceases to be active, and goes on. -/
def deactivate (t : Turn ε) : Turn ε :=
  let t := { t with
    link := { t.link with state := .idle }
    board := { t.board with active := t.board.active.lower } }
  let t := t.note .lowered
  let t :=
    if t.link.policy.waitForHeartbeat then t.setChannelActive false else t
  t.note .idled

/-- A heartbeat has come. -/
def beat (now : Nat) (t : Turn ε) : Turn ε :=
  let t := t.count fun s => { s with heartbeats := s.heartbeats + 1 }
  let (tracker, transition) := t.link.tracker.heartbeat now
  let t := { t with link := { t.link with tracker } }
  if transition = .activated then t.activate else t

/-- Feeds one received byte to the decoder, and counts the frame that it
completes. -/
def decode (b : UInt8) (t : Turn ε) : Turn ε × Option Frame :=
  let (decoder, frame) := t.link.decoder.push b
  let t := { t with link := { t.link with decoder } }
  (t.count fun s =>
      { s with framesIn := s.framesIn + frame.toList.length }, frame)

/-- Records what the handler decided on a frame. -/
def judge (f : Frame) (verdict : Except Refusal Unit) (t : Turn ε) : Turn ε :=
  let t := t.note (.frame f verdict)
  match verdict with
  | .ok _ => t
  | .error _ => t.count fun s =>
      { s with dispatchFailures := s.dispatchFailures + 1 }

/-- Takes one received byte in.  A frame that it completes goes to the handler;
a heartbeat counts whatever the handler decides. -/
def receive (h : Handler) (now : Nat) (t : Turn ε) (b : UInt8) : Turn ε :=
  match t.decode b with
  | (t, none) => t
  | (t, some f) =>
      let t := t.judge f (h.verdict f)
      if f.isHeartbeat then t.beat now else t

/-- Takes received bytes in. -/
def ingest (h : Handler) (now : Nat) (bytes : Bytes) (t : Turn ε) : Turn ε :=
  let t := bytes.foldl (receive h now) t
  t.count fun s => { s with parseErrors := t.link.decoder.stats.parseErrors }

/-! ## Ticking -/

/-- Looks whether the deadline for a heartbeat has passed. -/
def checkDeadline (now : Nat) (t : Turn ε) : Turn ε × Option Exit :=
  let (tracker, transition) := t.link.tracker.poll now
  let t := { t with link := { t.link with tracker } }
  let exit := if t.link.policy.exitOnIdle then some Exit.idle else none
  match transition with
  | .deactivated => (t.deactivate, exit)
  | .expired => (t, exit)
  | _ => (t, none)

/-- One poll. -/
def tick [Endpoint ε] (config : LinkConfig) (h : Handler) (now : Nat)
    (t : Turn ε) :
    Turn ε × Option Exit :=
  if ! t.board.pool.holds t.link.claim then (t, some .evicted)
  else
    match t.drain config.writeChunk with
    | (t, some exit) => (t, some exit)
    | (t, none) =>
        match t.read config.readBuffer with
        | (t, .error exit) => (t, some exit)
        | (t, .ok bytes) => (t.ingest h now bytes).checkDeadline now

/-! ## Ending -/

/-- Leaves the count of active links and gives the channel back, once.  A
channel that somebody else has by now is left alone. -/
def release (t : Turn ε) : Turn ε :=
  if t.link.state = .terminated then t
  else
    let t :=
      if t.link.state = .active then
        note { t with board := { t.board with active := t.board.active.lower } }
          .lowered
      else t
    { t with
      link := { t.link with state := .terminated }
      board :=
        { t.board with pool := (t.board.pool.releaseClaim t.link.claim).1 } }

/-- Gives everything back, reports, and lets the handler say its last words. -/
def finish (exit : Exit) (now : Nat) (lastWords : List Event) (t : Turn ε) :
    Turn ε :=
  let t := t.release
  let duration := now - t.link.startedAt
  let t := t.note (.terminated
    { exit, stats := t.link.stats, rxRate := t.link.stats.rxRate duration,
      duration })
  let t := { t with events := t.events ++ lastWords }
  t.note .ended

end Turn

end GroundLink
