import GroundLink.Link.Traffic

/-!
# The diary of a link

Whether the other side of a link is there is a matter of the link's polls: when
they were, and whether a heartbeat was among the frames that came in.  A `Poll`
keeps that, and what the link has put on record in it.  `Traffic.pollsOver`
keeps the diary of one link while things happen to all of them, the latest poll
first; it looks on and changes nothing.  `presence` is what a diary says about
the other side.
-/

namespace GroundLink

namespace Event

/-- The frame that the handler has decided on. -/
def frame? : Event → Option Frame
  | frame f _ => some f
  | _ => none

/-- Whether the handler is told that the link is active. -/
def isActivated : Event → Bool
  | activated => true
  | _ => false

/-- Whether the handler is told that the link is idle. -/
def isIdled : Event → Bool
  | idled => true
  | _ => false

end Event

/-- One poll of a link: when it began, the frames that are made of the bytes it
read, and what the link has put on record in it. -/
structure Poll where
  time : Nat
  frames : List Frame
  told : List Event := []

/-- Whether a heartbeat came in. -/
def Poll.beats (p : Poll) : Bool := p.frames.any Frame.isHeartbeat

/-- The polls, with more on record in the latest. -/
def tell (news : List Event) : List Poll → List Poll
  | [] => []
  | p :: past => { p with told := p.told ++ news } :: past

/-- When the latest heartbeat came in. -/
def lastBeat (polls : List Poll) : Option Nat :=
  (polls.find? Poll.beats).map Poll.time

/-- What is known of the other side at `now`, when the latest heartbeat was at
`beat`. -/
def presenceAt (timeout now : Nat) : (beat : Option Nat) → LinkState
  | none => .starting
  | some beat => if now ≤ beat + timeout then .active else .idle

/-- What the polls say of the other side at the time of the latest. -/
def presence (timeout : Nat) : List Poll → LinkState
  | [] => .starting
  | p :: past => presenceAt timeout p.time (lastBeat (p :: past))

/-- Whether the latest heartbeat was too long ago for this poll. -/
def Poll.isLate (timeout : Nat) (past : List Poll) (p : Poll) : Bool :=
  (lastBeat past).any fun beat => beat + timeout < p.time

/-- A poll told the handler what it should have: every frame that came in, in
order; that the link is active if a heartbeat came in while it was not; and that
it is idle if it was active, none came in and the latest was too long ago. -/
structure Poll.Lawful (timeout : Nat) (past : List Poll) (p : Poll) : Prop where
  frames : p.told.filterMap Event.frame? = p.frames
  activated : p.told.countP Event.isActivated =
    if p.beats = true ∧ presence timeout past ≠ .active then 1 else 0
  idled : p.told.countP Event.isIdled =
    if presence timeout past = .active ∧ p.beats = false ∧
      p.isLate timeout past = true then 1
    else 0

/-- Whether a link waits before all that was read has been decoded. -/
def Stand.isDecoding : Stand → Bool
  | .judging .. | .greeting .. => true
  | _ => false

variable {ε : Type} [Endpoint ε]

namespace Turn

/-- The bytes that the tick that begins now reads.  If the link ends before it
comes to reading, or by it, there are none. -/
def intake (config : LinkConfig) (t : Turn ε) : Bytes :=
  if t.board.pool.holds t.link.claim then
    match t.drain config.writeChunk with
    | (_, some _) => []
    | (t, none) =>
        match t.read config.readBuffer with
        | (_, .error _) => []
        | (_, .ok bytes) => bytes
  else []

/-- The frames that the link's decoder makes of them. -/
def arrivals (config : LinkConfig) (t : Turn ε) : List Frame :=
  (t.link.decoder.pushAll (t.intake config)).2

end Turn

/-- The diary when a link goes on: a poll begins, or the latest goes on. -/
def Turn.page (config : LinkConfig) (cue : Cue) (stand : Stand) (t : Turn ε)
    (polls : List Poll) : List Poll :=
  match stand with
  | .waiting => ⟨cue.now, t.arrivals config, []⟩ :: polls
  | _ => polls

/-- The diary after a stretch of work, with all that has come on record in
it. -/
def Course.enter (c : Course ε) (b : Board) (cue : Cue) (polls : List Poll) :
    List Poll :=
  tell (((c.turn b).resume c.config cue c.stand).1.events.drop c.events.length)
    ((c.turn b).page c.config cue c.stand polls)

namespace Traffic

/-- The diary of link `k` after one act. -/
def enter (w : Traffic ε) (k : Nat) (polls : List Poll) : Act ε → List Poll
  | .resume j cue =>
      match w.courses[j]? with
      | some c => if j = k then c.enter w.board cue polls else polls
      | none => polls
  | _ => polls

/-- The diary of link `k` after acts one after the other. -/
def pollsOver (k : Nat) (w : Traffic ε) (polls : List Poll) :
    List (Act ε) → List Poll
  | [] => polls
  | a :: acts => pollsOver k (w.act a) (w.enter k polls a) acts

end Traffic

end GroundLink
