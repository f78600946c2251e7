import GroundLink.Link.Turn

/-!
# A link between its waits

A link does not work without a break.  It waits for the next poll, and it waits
for its handler whenever it has told the handler something: that it has begun,
that a frame has come, that the other side is there or gone, that it has ended.
While it waits, anything can happen to the channels, to the count of active
links and to its own endpoint, and it can be dropped.

`Stand` says where a link waits, and `Turn.resume` is the stretch of work from
one wait to the next.  A tick that nobody disturbs is its stretches, one right
after the other.
-/

namespace GroundLink

/-- Where a link waits.  In the middle of a tick it keeps the time at which the
tick began and the bytes that it has read and not decoded yet. -/
inductive Stand
  /-- Nobody has run it yet. -/
  | connected
  /-- The handler is told that it begins. -/
  | beginning
  /-- The next poll is not due yet. -/
  | waiting
  /-- The handler decides on a frame. -/
  | judging (now : Nat) (frame : Frame) (rest : Bytes)
  /-- The handler is told that the link is active. -/
  | greeting (now : Nat) (rest : Bytes)
  /-- The handler is told that the link is idle; it may be about to end. -/
  | parting (exit : Option Exit)
  /-- The handler is told that the link has ended. -/
  | ending
  | finished
deriving Repr, DecidableEq

/-- What a link gets to know when it goes on: the time, what its handler has
decided, and how many frames the handler has seen, if it counts them. -/
structure Cue where
  now : Nat
  verdict : Except Refusal Unit := .ok ()
  total : Option Nat := none

/-- What the handler says when the link ends. -/
def Cue.lastWords (cue : Cue) : List Event := cue.total.toList.map .frameTotal

namespace Turn

variable {ε : Type}

/-- Ends the link for the given reason, and waits for the handler's last
words. -/
def leave (exit : Exit) (cue : Cue) (t : Turn ε) : Turn ε × Stand :=
  (t.finish exit cue.now cue.lastWords, .ending)

/-- Ends a tick that began at `now`, once all that was read has been decoded. -/
def endTick (now : Nat) (cue : Cue) (t : Turn ε) : Turn ε × Stand :=
  let t := t.count fun s =>
    { s with parseErrors := t.link.decoder.stats.parseErrors }
  match (t.link.tracker.poll now).2, t.checkDeadline now with
  | .deactivated, (t, exit) => (t, .parting exit)
  | _, (t, some exit) => t.leave exit cue
  | _, (t, none) => (t, .waiting)

/-- Decodes up to the end of the next frame, or all bytes if no frame ends. -/
def takeIn (now : Nat) (cue : Cue) : Bytes → Turn ε → Turn ε × Stand
  | [], t => t.endTick now cue
  | b :: rest, t =>
      match t.decode b with
      | (t, none) => takeIn now cue rest t
      | (t, some f) => (t, .judging now f rest)

/-- The first stretch of a tick. -/
def startTick [Endpoint ε] (config : LinkConfig) (cue : Cue) (t : Turn ε) :
    Turn ε × Stand :=
  if ! t.board.pool.holds t.link.claim then t.leave .evicted cue
  else
    match t.drain config.writeChunk with
    | (t, some exit) => t.leave exit cue
    | (t, none) =>
        match t.read config.readBuffer with
        | (t, .error exit) => t.leave exit cue
        | (t, .ok bytes) => t.takeIn cue.now cue bytes

/-- Goes on after the handler has decided on a frame. -/
def weigh (now : Nat) (f : Frame) (rest : Bytes) (cue : Cue) (t : Turn ε) :
    Turn ε × Stand :=
  let t := t.judge f cue.verdict
  if f.isHeartbeat then
    if t.link.tracker.active then (t.beat now).takeIn now cue rest
    else (t.beat now, .greeting now rest)
  else t.takeIn now cue rest

/-- Goes on from where the link waits up to the next wait. -/
def resume [Endpoint ε] (config : LinkConfig) (cue : Cue) :
    Stand → Turn ε → Turn ε × Stand
  | .connected, t => (t.begin, .beginning)
  | .beginning, t => (t, .waiting)
  | .waiting, t => t.startTick config cue
  | .judging now f rest, t => t.weigh now f rest cue
  | .greeting now rest, t => t.takeIn now cue rest
  | .parting none, t => (t, .waiting)
  | .parting (some exit), t => t.leave exit cue
  | .ending, t => (t, .finished)
  | .finished, t => (t, .finished)

end Turn

end GroundLink
