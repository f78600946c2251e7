import GroundLink.Link.Dealing
import GroundLink.Link.Diary

/-!
# What a link hears

A link at a pipe hears what the peer sends: bytes that come to its decoder, and
frames that come to its handler.  An `Account` says what record and counters of
the link have to be once it has heard some bytes.  It mentions the bytes as one
stream; where they were cut, and what happened in between, has no part in it.

`Around` is what can happen around one link while its peer does nothing but what
a peer can do.
-/

namespace GroundLink

/-- Whether the handler has refused a frame. -/
def Event.isRefusal : Event → Bool
  | frame _ (.error _) => true
  | _ => false

/-- Whether the link has put its end on record. -/
def Event.isReport : Event → Bool
  | terminated _ => true
  | _ => false

namespace Handler

variable (h : Handler)

/-- The handler refuses this frame. -/
def refuses (f : Frame) : Bool :=
  match h.verdict f with
  | .ok _ => false
  | .error _ => true

/-- The frames on record have been decided on by this handler. -/
def Decides (events : List Event) : Prop :=
  ∀ f verdict, .frame f verdict ∈ events → verdict = h.verdict f

end Handler

/-- What a new decoder makes of these bytes. -/
def hearing (heard : Bytes) : Decoder × List Frame :=
  ({} : Decoder).pushAll heard

/-- **What a link that has heard these bytes has on record and has counted.** -/
structure Account (heard : Bytes) (events : List Event) (stats : LinkStats) :
    Prop where
  frames : events.filterMap Event.frame? = (hearing heard).2
  bytesIn : stats.bytesIn = heard.length
  framesIn : stats.framesIn = (hearing heard).1.stats.frames
  parseErrors : stats.parseErrors = (hearing heard).1.stats.parseErrors
  heartbeats : stats.heartbeats = (hearing heard).2.countP Frame.isHeartbeat
  refusals : ∀ h : Handler, h.Decides events →
    stats.dispatchFailures = (hearing heard).2.countP h.refuses
  unknown : Handler.heartbeatsOnly.Decides events →
    stats.dispatchFailures = stats.framesIn - stats.heartbeats
  uncounted : Handler.counting.Decides events →
    stats.dispatchFailures = (hearing heard).2.countP fun f =>
      ! f.isHeartbeat && f.message.id != Message.manualControlId

/-- **A link has heard its peer**, which has done these things.  While it is
alive, it has heard a beginning of what the peer has sent, and the rest is
unread; so once nothing is unread it has heard everything.  It says that the
other side has closed only when the peer is gone and everything has been heard
before. -/
structure Course.HasHeard {ε : Type} [Peered ε] (doings : List Peer)
    (c : Course ε) : Prop where
  soFar : c.link.state ≠ .terminated → c.stand.isDecoding = false →
    ∃ heard, Peer.sent doings = heard ++ Peered.unread c.endpoint ∧
      Account heard c.events c.link.stats
  all : c.link.state ≠ .terminated → c.stand.isDecoding = false →
    Peered.unread c.endpoint = [] →
    Account (Peer.sent doings) c.events c.link.stats
  closed : ∀ before report after,
    c.events = before ++ .terminated report :: after →
    report.exit = .closed → .leave ∈ doings ∧
    Account (Peer.sent doings) before report.stats

/-- What there is to hear is heard over this kind of endpoint: a link is
connected whose peer has done some things before, and then anything happens
among links with peers. -/
def HearsAll (ε : Type) [Endpoint ε] [Peered ε] : Prop :=
  ∀ (w : Traffic ε) (name : String) (policy : Policy) (config : LinkConfig)
    (now : Nat)
    (early : List Peer) (c₀ : Course ε),
    (w.act
      ((Dealing.connect name policy now early).act
        config)).courses[w.courses.length]? =
      some c₀ →
    ∀ dealings : List Dealing,
      ∃ c, ((w.act ((Dealing.connect name policy now early).act config)).run
            (dealings.map (·.act config))).courses[w.courses.length]? = some c ∧
        c.HasHeard (early ++ dealings.filterMap (·.doing? w.courses.length))

end GroundLink
