import GroundLink.Link.Hearing
import Mathlib.Data.List.Chain

/-!
# What a handler is called for

A link calls its handler when it has begun, for every frame, when the other side
shows up, when it is gone, and when the link has ended.  It waits until the
handler has answered; so where it waits says which call it has made
(`Stand.hook?`), and the handler may still be at work on it when the link is
dropped.

The `Minutes` of a link keep these calls, the bytes that it has read, and the
state in which it was when its end was decided.  `Traffic.minutesOver` takes the
minutes of one link while things happen to all of them; it looks on and changes
nothing.  `Hook.InTurn` is what the calls have to be over the whole life of a
link.
-/

namespace GroundLink

/-- One call of a handler. -/
inductive Hook
  | begun
  | frame (f : Frame)
  | activated
  | idled
  | ended
deriving Repr, DecidableEq

namespace Hook

/-- The frame that the handler is to decide on. -/
def frame? : Hook → Option Frame
  | frame f => some f
  | _ => none

/-- Whether the other side is said to be there, if anything is said of it. -/
def presence? : Hook → Option Bool
  | activated => some true
  | idled => some false
  | _ => none

/-- **The calls in the life of a link**, from its beginning to its end. -/
structure InTurn (hooks : List Hook) : Prop where
  /-- It begins once, first, and ends once, last. -/
  framed : ∃ between, hooks = begun :: (between ++ [ended]) ∧ begun ∉ between ∧
    ended ∉ between
  /-- The other side comes and goes by turns, and is not there at first. -/
  alternating : (false :: hooks.filterMap presence?).IsChain (· ≠ ·)
  /-- It comes with a heartbeat. -/
  prompted : ∀ before after, hooks = before ++ activated :: after →
    ∃ earlier f, before = earlier ++ [frame f] ∧ f.isHeartbeat = true

end Hook

/-- The call that has put this on record. -/
def Event.hook? : Event → Option Hook
  | begun .. => some .begun
  | frame f _ => some (.frame f)
  | activated => some .activated
  | idled => some .idled
  | ended => some .ended
  | _ => none

namespace Stand

/-- The call that a link waits for here. -/
def hook? : Stand → Option Hook
  | beginning => some .begun
  | judging _ f _ => some (.frame f)
  | greeting .. => some .activated
  | parting _ => some .idled
  | ending => some .ended
  | _ => none

/-- The calls that are not on record yet: what the handler decides on a frame
comes with its answer. -/
def asked : Stand → List Hook
  | judging _ f _ => [.frame f]
  | _ => []

/-- What has been read and not been decoded yet. -/
def undecoded : Stand → Bytes
  | judging _ _ rest => rest
  | greeting _ rest => rest
  | _ => []

end Stand

/-- What can be seen of a link from its two sides. -/
structure Minutes where
  /-- All that it has read. -/
  received : Bytes := []
  /-- The calls of its handler, the first one first. -/
  hooks : List Hook := []
  /-- The state in which it was when its end was decided. -/
  atExit : Option LinkState := none
deriving Repr, DecidableEq

variable {ε : Type} [Endpoint ε]

namespace Turn

/-- The minutes after a stretch of work.  A stretch that ends the link leaves
its state alone until the end is decided (`Turn.Serves`). -/
def minute (config : LinkConfig) (cue : Cue) (stand : Stand) (t : Turn ε)
    (x : Minutes) :
    Minutes where
  received := x.received ++ if stand = .waiting then t.intake config else []
  hooks := x.hooks ++ (t.resume config cue stand).2.hook?.toList
  atExit := if (t.resume config cue stand).2 = .ending then some t.link.state
    else x.atExit

end Turn

namespace Traffic

/-- The minutes of link `k` after one act. -/
def minute (w : Traffic ε) (k : Nat) (x : Minutes) : Act ε → Minutes
  | .resume j cue =>
      match w.courses[j]? with
      | some c =>
          if j = k then (c.turn w.board).minute c.config cue c.stand x else x
      | none => x
  | _ => x

/-- The minutes of link `k` after acts one after the other. -/
def minutesOver (k : Nat) (w : Traffic ε) (x : Minutes) : List (Act ε) → Minutes
  | [] => x
  | a :: acts => minutesOver k (w.act a) (w.minute k x a) acts

end Traffic

/-- **What link `k` has told its handler** while these things have happened to
it. -/
structure Course.Tells (dropped : Prop) (x : Minutes) (w : Traffic ε)
    (c : Course ε) : Prop where
  /-- The calls are those of a life, or the beginning of them; and all of them
  if the last is that the link has ended. -/
  inTurn : ∃ more, Hook.InTurn (x.hooks ++ more) ∧
    (.ended ∈ x.hooks → more = [])
  /-- A link that has ended and has not been dropped has told its handler so. -/
  told : c.link.state = .terminated ↔ .ended ∈ x.hooks ∨ dropped
  /-- The handler has been called once for every frame that the decoder has
  completed, in their order, whatever it has decided on them. -/
  heard : ∃ decoded left, x.received = decoded ++ left ∧
    hearing decoded = (c.link.decoder, x.hooks.filterMap Hook.frame?) ∧
    (.ended ∈ x.hooks ∨ ¬dropped → left = c.stand.undecoded)
  /-- The calls are on record, but for the one whose answer is not there. -/
  recorded : ∃ asked, x.hooks = c.events.filterMap Event.hook? ++ asked ∧
    asked.length ≤ 1 ∧
    (.ended ∈ x.hooks ∨ ¬dropped → asked = c.stand.asked)
  /-- Whoever is told that the link has ended finds that it has given everything
  back. -/
  released : .ended ∈ x.hooks → w.downlink.pool.holds c.link.claim = false ∧
    c.isActive = false
  counted : w.active.links = w.courses.countP Course.isActive
  /-- The other side has come once more than it has gone if the link was active
  at its end. -/
  balanced : .ended ∈ x.hooks → ∃ state, x.atExit = some state ∧
    x.hooks.count .activated = x.hooks.count .idled +
      if state = .active then 1 else 0
  /-- So it is before the end. -/
  balance : c.link.state ≠ .terminated →
    x.hooks.count .activated = x.hooks.count .idled +
      if c.isActive then 1 else 0

end GroundLink
