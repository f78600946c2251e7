import GroundLink.Link.Traffic
import GroundLink.Port.Inbox

/-!
# What a link gets to know

Whatever happens around a link, little of it comes to the link: what its inbox
holds, whether its channel is still its own and active, and when it goes on or
is dropped.  `Traffic.circumstances` lists that for one link while things happen
to all of them, and leaves out what makes no difference to it: what is
published, what waits on its channel, what other links do, how its writes fare.

What the link does about it is on its record.  A report counts bytes that were
sent and writes that failed; `Event.inbound` is the event without these two
counters.
-/

namespace GroundLink

/-- The counters without those of the bytes that were sent. -/
def LinkStats.inbound (s : LinkStats) : LinkStats :=
  { s with bytesOut := 0, writeErrors := 0 }

def Report.inbound (r : Report) : Report := { r with stats := r.stats.inbound }

/-- The event without the counters of the bytes that were sent. -/
def Event.inbound : Event → Event
  | terminated report => terminated report.inbound
  | e => e

/-- Whether the channel of the link is active, if the channel is still the
link's. -/
def Turn.flag {ε : Type} (t : Turn ε) : Option Bool :=
  if t.board.pool.holds t.link.claim
    then some (t.board.pool.isActive t.link.channel) else none

/-- One thing that a link gets to know. -/
inductive Circumstance (ι : Type)
  /-- It goes on. -/
  | goes (cue : Cue)
  | dropped
  /-- Its inbox holds something else now, or its channel has been given away, or
  somebody has set the flag of its channel. -/
  | finds (inbox : ι) (flag : Option Bool)

/-- What link `k` is made to do itself. -/
def Act.own? {ε ι : Type} (k : Nat) : Act ε → Option (Circumstance ι)
  | .resume j cue => if j = k then some (.goes cue) else none
  | .drop j => if j = k then some .dropped else none
  | _ => none

namespace Traffic

variable {ε ι : Type} [Endpoint ε] [DecidableEq ι] (inbox : Inbox ε ι) (k : Nat)

/-- What link `k` can see: its inbox, and the flag of its channel. -/
def sight (w : Traffic ε) : Option (ι × Option Bool) :=
  w.courses[k]?.map fun c => (inbox.of c.endpoint, (c.turn w.board).flag)

/-- What link `k` gets to know by one act, if anything. -/
def circumstance (w : Traffic ε) (a : Act ε) : Option (Circumstance ι) :=
  match a.own? k with
  | some x => some x
  | none =>
      if (w.act a).sight inbox k = w.sight inbox k then none
      else ((w.act a).sight inbox k).map fun (holds, flag) => .finds holds flag

/-- What link `k` gets to know by acts one after the other. -/
def circumstances (w : Traffic ε) : List (Act ε) → List (Circumstance ι)
  | [] => []
  | a :: acts =>
      (w.circumstance inbox k a).toList ++ circumstances (w.act a) acts

end Traffic

end GroundLink
