import GroundLink.Channel.Bounds
import GroundLink.Link.Dealing

/-!
# Links with every step checked

What a link does over a pipe, with every step checked by which a program could
stop short: how much fits into a buffer and how much is there to be taken out of
it, what is at the beginning of a frame, that polls have a period, and
everything that is done to the channels.

As with channels, an operation is `none` as soon as one step fails.  What a link
does besides is left as it is.
-/

namespace GroundLink

open Checked

/-! ## The pipe -/

namespace Parcels

variable (p : Parcels)

/-- Reads up to `n` bytes of what has been opened into a buffer of `n`. -/
def readOpened? (n : Nat) : Option (Parcels × Except Fault Bytes) :=
  if p.opened.isEmpty then some (p.readOpened n)
  else do
    let m ← fits? (min p.opened.length n) n
    let m ← fits? m p.opened.length
    some ({ p with opened := p.opened.drop m }, .ok (p.opened.take m))

/-- Reads up to `n` bytes. -/
def read? (n : Nat) : Option (Parcels × Except Fault Bytes) :=
  (p.openUp n).readOpened? n

/-- Writes what one write takes. -/
def write? (bytes : Bytes) : Option (Parcels × Except Fault Nat) :=
  if p.failWrites then some (p, .error .brokenPipe)
  else
    let n := p.asPipe.accepts bytes.length
    if n = 0 then some (p, .ok 0)
    else do
      let n ← fits? n bytes.length
      if p.peerGone then some (p, .error .brokenPipe)
      else some ({ p with outbound := p.outbound ++ [bytes.take n] }, .ok n)

end Parcels

/-! ## The decoder -/

namespace Decoder

/-- The version of a frame, which its first byte says. -/
def version? (buffer : Bytes) : Option Version := do
  let start ← buffer[0]?
  some (if start = Version.v1.startByte then .v1 else .v2)

/-- The length that the beginning of a frame announces, if that much of it is
there. -/
def announced? (buffer : Bytes) : Option (Option Nat) :=
  match buffer[1]? with
  | none => some none
  | some length => do
      match ← version? buffer with
      | .v1 => some (some (8 + length.toNat))
      | .v2 => some (buffer[2]?.map fun flags =>
          12 + length.toNat +
            if Envelope.isSigned flags then Envelope.signatureLength else 0)

/-- Reads the collected frame and forgets its bytes. -/
def finish? (d : Decoder) : Option (Decoder × Option Frame) := do
  match Frame.find? (← version? d.buffer) d.buffer with
  | some f =>
      some
        ({ buffer := []
           stats := { d.stats with frames := d.stats.frames + 1 } }, some f)
  | none =>
      some
        ({ buffer := []
           stats := { d.stats with parseErrors := d.stats.parseErrors + 1 } },
          none)

/-- Takes one byte. -/
def push? (d : Decoder) (b : UInt8) : Option (Decoder × Option Frame) :=
  if d.buffer.isEmpty && ! isStartByte b then some (d.push b)
  else do
    let d := { d with buffer := d.buffer ++ [b] }
    let total ← announced? d.buffer
    if total.any (· ≤ d.buffer.length) then d.finish? else some (d, none)

end Decoder

/-! ## Stretches of work -/

namespace Turn

/-- Takes the next chunk from the channel once the last one is gone. -/
def refill? (chunk : Nat) (t : Turn Parcels) : Option (Turn Parcels) :=
  if t.link.pending.isEmpty then do
    let (pool, bytes) ← t.board.pool.drain? t.link.channel chunk
    let n ← fits? bytes.length chunk
    some { t with
      board := { t.board with pool }, link :=
        { t.link with pending := bytes.take n } }
  else some t

/-- `n` bytes of the chunk have been written. -/
def wrote? (n : Nat) (t : Turn Parcels) : Option (Turn Parcels) := do
  let n ← fits? n t.link.pending.length
  some (t.wrote n)

/-- Writes chunk after chunk, at most `attempts` times. -/
def drainWithin? (chunk : Nat) :
    (attempts : Nat) → Turn Parcels → Option (Turn Parcels × Option Exit)
  | 0, t => some (t, none)
  | attempts + 1, t => do
      let t ← t.refill? chunk
      if t.link.pending.isEmpty then some (t, none)
      else
        match ← t.endpoint.write? t.link.pending with
        | (endpoint, .ok 0) => some ({ t with endpoint }, none)
        | (endpoint, .ok (n + 1)) => do
            let t ← wrote? (n + 1) { t with endpoint }
            drainWithin? chunk attempts t
        | (endpoint, .error _) => some (writeFailed { t with endpoint })

/-- Writes all that can be written. -/
def drain? (chunk : Nat) (t : Turn Parcels) :
    Option (Turn Parcels × Option Exit) :=
  drainWithin? chunk (t.unwritten + 1) t

/-- Reads once, into a buffer of `size`. -/
def read? (size : Nat) (t : Turn Parcels) :
    Option (Turn Parcels × Except Exit Bytes) := do
  match ← t.endpoint.read? size with
  | (endpoint, .ok bytes) => do
      let n ← fits? bytes.length size
      some (count { t with endpoint } fun s =>
          { s with bytesIn := s.bytesIn + n },
        .ok bytes)
  | (endpoint, .error fault) =>
      let t := { t with endpoint }
      some (if fault.isClosed then (t, .error .closed)
        else (t.count fun s => { s with readErrors := s.readErrors + 1 },
          .ok []))

/-- Feeds one received byte to the decoder. -/
def decode? (b : UInt8) (t : Turn Parcels) :
    Option (Turn Parcels × Option Frame) := do
  let (decoder, frame) ← t.link.decoder.push? b
  let t := { t with link := { t.link with decoder } }
  some (t.count fun s =>
      { s with framesIn := s.framesIn + frame.toList.length }, frame)

/-- Gives the channel back. -/
def release? (t : Turn Parcels) : Option (Turn Parcels) :=
  if t.link.state = .terminated then some t
  else do
    let t :=
      if t.link.state = .active then
        note { t with board := { t.board with active := t.board.active.lower } }
          .lowered
      else t
    let (pool, _) ← t.board.pool.free? t.link.claim.index
        (some t.link.claim.generation)
    some { t with
      link := { t.link with state := .terminated }, board :=
        { t.board with pool } }

/-- Ends the link.  Once everything has been given back, there is nothing left
to give. -/
def leave? (exit : Exit) (cue : Cue) (t : Turn Parcels) :
    Option (Turn Parcels × Stand) := do
  let t ← t.release?
  some (t.leave exit cue)

/-- Ends a tick. -/
def endTick? (now : Nat) (cue : Cue) (t : Turn Parcels) :
    Option (Turn Parcels × Stand) :=
  let t := t.count fun s =>
    { s with parseErrors := t.link.decoder.stats.parseErrors }
  match (t.link.tracker.poll now).2, t.checkDeadline now with
  | .deactivated, (t, exit) => some (t, .parting exit)
  | _, (t, some exit) => t.leave? exit cue
  | _, (t, none) => some (t, .waiting)

/-- Decodes up to the end of the next frame. -/
def takeIn? (now : Nat) (cue : Cue) :
    Bytes → Turn Parcels → Option (Turn Parcels × Stand)
  | [], t => t.endTick? now cue
  | b :: rest, t => do
      match ← t.decode? b with
      | (t, none) => takeIn? now cue rest t
      | (t, some f) => some (t, .judging now f rest)

/-- The first stretch of a tick. -/
def startTick? (config : LinkConfig) (cue : Cue) (t : Turn Parcels) :
    Option (Turn Parcels × Stand) :=
  if ! t.board.pool.holds t.link.claim then t.leave? .evicted cue
  else do
    match ← t.drain? config.writeChunk with
    | (t, some exit) => t.leave? exit cue
    | (t, none) => do
        match ← t.read? config.readBuffer with
        | (t, .error exit) => t.leave? exit cue
        | (t, .ok bytes) => t.takeIn? cue.now cue bytes

/-- Goes on after the handler has decided on a frame. -/
def weigh? (now : Nat) (f : Frame) (rest : Bytes) (cue : Cue)
    (t : Turn Parcels) :
    Option (Turn Parcels × Stand) :=
  let t := t.judge f cue.verdict
  if f.isHeartbeat then
    if t.link.tracker.active then (t.beat now).takeIn? now cue rest
    else some (t.beat now, .greeting now rest)
  else t.takeIn? now cue rest

/-- Goes on up to the next wait.  A link that has begun sets itself a period for
its polls. -/
def resume? (config : LinkConfig) (cue : Cue) :
    Stand → Turn Parcels → Option (Turn Parcels × Stand)
  | .connected, t => some (t.begin, .beginning)
  | .beginning, t => do
      let _ ← positive? config.pollInterval
      some (t, .waiting)
  | .waiting, t => t.startTick? config cue
  | .judging now f rest, t => t.weigh? now f rest cue
  | .greeting now rest, t => t.takeIn? now cue rest
  | .parting none, t => some (t, .waiting)
  | .parting (some exit), t => t.leave? exit cue
  | .ending, t => some (t, .finished)
  | .finished, t => some (t, .finished)

end Turn

/-! ## Many links -/

namespace Traffic

variable (w : Traffic Parcels)

/-- Connects a link, if there is a channel for it. -/
def connect? (name : String) (policy : Policy) (config : LinkConfig) (now : Nat)
    (endpoint : Parcels) : Option (Traffic Parcels) := do
  match ← w.downlink.pool.claim? with
  | (_, none) => some w
  | (pool, some claim) =>
      let link :=
        Link.connect name claim (Endpoint.transport endpoint) policy config now
      some { w with
        downlink := { w.downlink with pool }
        courses := w.courses ++ [{ link, config, endpoint }] }

/-- Lets one thing happen. -/
def act? : Act Parcels → Option (Traffic Parcels)
  | .connect name policy config now endpoint =>
      w.connect? name policy config now endpoint
  | .resume k cue =>
      match w.courses[k]? with
      | none => some w
      | some c => do
          let (t, stand) ← (c.turn w.board).resume? c.config cue c.stand
          some (w.commit k c t stand)
  | .drop k =>
      match w.courses[k]? with
      | none => some w
      | some c => do
          let t ← (c.turn w.board).release?
          some (w.commit k c t .finished)
  | .far k f => some (w.act (.far k f))
  | .ask op => do
      let (downlink, _) ← w.downlink.perform? op
      some { w with downlink }

end Traffic

end GroundLink
