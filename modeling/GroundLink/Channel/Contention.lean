import GroundLink.Channel.Downlink

/-!
# Many callers at once

The marks are behind one lock and every slot is behind one of its own, so that a
request is not carried out in one go.  Each caller holds one lock at a time;
between two of its turns anybody else may have the pool.  Claiming is two turns,
`Pool.mark` and `Pool.occupy`; giving back is two, `Pool.vacate` and
`Pool.unmark`; publishing takes a turn at every slot, one after the other, and
whoever sends a message takes its number before that.  Every other request is
one turn.

A `Progress` is how far a call has come, and `Downlink.advance` is its next
turn.  A `Contention` is a downlink with all the calls that have been made of
it; whose turn it is, is up to the list of acts.  Beside the run stand the
strokes, which say who marked, occupied, vacated and unmarked which channel, in
their order.
-/

namespace GroundLink

/-- How far a call has come. -/
inductive Progress
  /-- Nothing has been done yet. -/
  | asked (op : Downlink.Op)
  /-- Channel `index` is marked for the caller, who has not occupied it. -/
  | taking (index : Nat)
  /-- Channel `index` is vacated, and the caller has not unmarked it; a caller
  who named a claim will be told. -/
  | giving (index : Nat) (told : Bool)
  /-- The slots before `next` have been offered the bytes. -/
  | offering (bytes : Bytes) (next reached : Nat)
  | answered (reply : Downlink.Reply)
deriving Repr, DecidableEq

/-- The channel that a call is between two turns with. -/
def Progress.channel? : Progress → Option Nat
  | taking i => some i
  | giving i _ => some i
  | _ => none

/-- What a turn does to who has a channel. -/
inductive Stroke
  | marked (index : Nat)
  | issued (claim : Claim)
  | vacated (index : Nat)
  | freed (index : Nat)
deriving Repr, DecidableEq

namespace Stroke

/-- The channel that is meant. -/
def channel : Stroke → Nat
  | marked i => i
  | issued c => c.index
  | vacated i => i
  | freed i => i

end Stroke

namespace Downlink

/-- The answer to a caller who wanted to give a channel back. -/
def Reply.released (told freed : Bool) : Reply :=
  if told then .changed freed else .done

variable (d : Downlink)

/-- The first turn of giving channel `i` back. -/
def vacate (i : Nat) (generation : Option Nat) :
    Downlink × Progress × Option Stroke :=
  match d.pool.vacate i generation with
  | (_, false) => (d, .answered (.released generation.isSome false), none)
  | (pool, true) =>
      ({ d with pool }, .giving i generation.isSome, some (.vacated i))

/-- Takes the number of a message that is then offered to one slot after the
other. -/
def announce (component : UInt8) (m : Message) :
    Downlink × Progress × Option Stroke :=
  ({ d with publisher := { d.publisher with next := d.publisher.next + 1 } },
    .offering (d.publisher.frame component m).encode 0 0, none)

/-- The next turn of a call. -/
def advance : Progress → Downlink × Progress × Option Stroke
  | .asked .claim =>
      match d.pool.mark with
      | (_, none) => (d, .answered (.claimed none), none)
      | (pool, some i) => ({ d with pool }, .taking i, some (.marked i))
  | .asked (.release i) => d.vacate i none
  | .asked (.releaseClaim c) => d.vacate c.index (some c.generation)
  | .asked (.publish bytes) => (d, .offering bytes 0 0, none)
  | .asked (.sendFrame frame) => (d, .offering frame.encode 0 0, none)
  | .asked (.send component m) => d.announce component m
  | .asked (.sendHeartbeat component hb) => d.announce component hb.toMessage
  | .asked (.sendStatusText severity text) =>
      match Message.statusText? severity text with
      | none => (d, .answered (.reached 0), none)
      | some m => d.announce d.publisher.component m
  | .asked op =>
      let (d, reply) := d.perform op
      (d, .answered reply, none)
  | .taking i =>
      let (pool, c) := d.pool.occupy i
      ({ d with pool }, .answered (.claimed (some c)), some (.issued c))
  | .giving i told =>
      ({ d with pool := d.pool.unmark i }, .answered (.released told true),
        some (.freed i))
  | .offering bytes next reached =>
      match d.pool.slots[next]? with
      | none => (d, .answered (.reached reached), none)
      | some s =>
          ({ d with pool := d.pool.modify next (·.offer bytes) },
            .offering bytes (next + 1) (reached + if s.active then 1 else 0),
            none)
  | .answered reply => (d, .answered reply, none)

end Downlink

/-- A downlink and the calls that have been made of it, whoever made them. -/
structure Contention where
  downlink : Downlink
  calls : List Progress := []
deriving Repr, DecidableEq

namespace Contention

inductive Act
  /-- Somebody asks for something. -/
  | call (op : Downlink.Op)
  /-- A call has its next turn. -/
  | advance (number : Nat)
deriving Repr, DecidableEq

variable (c : Contention)

/-- What an act makes of it, and the stroke with the number of the call whose it
is. -/
def act : Act → Contention × Option (Nat × Stroke)
  | .call op => ({ c with calls := c.calls ++ [.asked op] }, none)
  | .advance k =>
      match c.calls[k]? with
      | none => (c, none)
      | some s =>
          let (downlink, s', stroke) := c.downlink.advance s
          (⟨downlink, c.calls.set k s'⟩, stroke.map (k, ·))

/-- Acts one after the other. -/
def run (acts : List Act) : Contention := acts.foldl (fun c a => (c.act a).1) c

/-- The strokes of a run, in their order. -/
def strokes (c : Contention) : List Act → List (Nat × Stroke)
  | [] => []
  | a :: acts => (c.act a).2.toList ++ strokes (c.act a).1 acts

/-- Call `k` is between two turns with channel `i`. -/
def IsBetween (k i : Nat) : Prop :=
  ∃ s, c.calls[k]? = some s ∧ s.channel? = some i

@[simp] theorem run_nil : c.run [] = c := rfl

@[simp] theorem run_cons (a : Act) (acts : List Act) :
    c.run (a :: acts) = (c.act a).1.run acts := rfl

end Contention

end GroundLink
