import GroundLink.Channel.Beacon

/-!
# Channels with every step checked

The operations on channels take it for granted that positions are in range, that
differences are not negative and that nothing is divided by zero: `Queue.cell`
gives some byte for any position, and a difference of numbers stops at zero.
Where a program would stop short instead, these stand-ins answer as if nothing
was wrong.

Here are the same operations with every such step checked.  An operation is
`none` as soon as one step fails (`sub?`, `mod?`, `store?`, `fits?`,
`positive?`, or a look at a position).
-/

namespace GroundLink

namespace Checked

/-- A difference that must not be negative. -/
def sub? (a b : Nat) : Option Nat := if b ≤ a then some (a - b) else none

/-- A remainder; the divisor must not be zero. -/
def mod? (a b : Nat) : Option Nat := if 0 < b then some (a % b) else none

/-- Overwrites a position that must be there. -/
def store? {α : Type} (xs : List α) (i : Nat) (x : α) : Option (List α) :=
  if i < xs.length then some (xs.set i x) else none

/-- The first `n` of `size` cells. -/
def fits? (n size : Nat) : Option Nat := if n ≤ size then some n else none

/-- A period, which must not be zero. -/
def positive? (period : Nat) : Option Nat :=
  if 0 < period then some period else none

end Checked

open Checked

namespace Queue

variable (q : Queue)

/-- Bytes that wait. -/
def length? : Option Nat := do
  let distance ← sub? (q.tail + q.capacity) q.head
  mod? distance q.capacity

/-- Bytes that can still be taken in. -/
def free? : Option Nat := do
  let cells ← sub? q.capacity 1
  let waiting ← q.length?
  sub? cells waiting

def isFull? : Option Bool := do
  let next ← mod? (q.tail + 1) q.capacity
  some (next == q.head)

/-- Fills the cell at the tail and moves the tail on. -/
def put? (b : UInt8) : Option Queue := do
  let _ ← q.cells[q.tail]?
  let next ← mod? (q.tail + 1) q.capacity
  some { q with cells := q.cells.setIfInBounds q.tail b, tail := next }

/-- The byte in the cell at the head, and the queue without it. -/
def take? : Option (UInt8 × Queue) := do
  let b ← q.cells[q.head]?
  let next ← mod? (q.head + 1) q.capacity
  some (b, { q with head := next })

/-- Takes in bytes until the queue is full. -/
def push? (q : Queue) : Bytes → Option (Queue × Nat)
  | [] => some (q, 0)
  | b :: rest => do
      if ← q.isFull? then some (q, 0)
      else
        let q ← q.put? b
        let (q, n) ← push? q rest
        some (q, n + 1)

/-- Hands out up to `n` bytes. -/
def pop? (q : Queue) : Nat → Option (Queue × Bytes)
  | 0 => some (q, [])
  | n + 1 =>
      if q.isEmpty then some (q, [])
      else do
        let (b, q) ← q.take?
        let (q, bs) ← pop? q n
        some (q, b :: bs)

end Queue

namespace Slot

variable (s : Slot)

/-- Takes what fits of `bs` if the channel is active, and counts the rest. -/
def offer? (bs : Bytes) : Option Slot :=
  if s.active then do
    let (queue, n) ← s.queue.push? bs
    let refused ← sub? bs.length n
    some { s with
           queue, enqueued := s.enqueued + n, dropped := s.dropped + refused }
  else some s

/-- Hands out up to `n` waiting bytes. -/
def drain? (n : Nat) : Option (Slot × Bytes) := do
  let (queue, bs) ← s.queue.pop? n
  some ({ s with queue, dequeued := s.dequeued + bs.length }, bs)

end Slot

namespace Pool

variable (p : Pool)

/-- Takes the lowest free channel: marks it, and begins its next occupation. -/
def claim? : Option (Pool × Option Claim) :=
  match p.taken.findIdx? (! ·) with
  | none => some (p, none)
  | some i => do
      let taken ← store? p.taken i true
      let s ← p.slots[i]?
      let slots ← store? p.slots i s.occupy
      some ({ taken, slots }, some ⟨i, s.occupy.generation⟩)

/-- Gives channel `i` back, if it is occupied as meant. -/
def free? (i : Nat) (generation : Option Nat) : Option (Pool × Bool) :=
  match p.vacate i generation with
  | (p, false) => some (p, false)
  | (p, true) => do
      let taken ← store? p.taken i false
      some ({ p with taken }, true)

/-- Hands out up to `n` bytes that wait on channel `i`. -/
def drain? (i n : Nat) : Option (Pool × Bytes) :=
  match p.slots[i]? with
  | none => some (p, [])
  | some s => do
      let (s, bs) ← s.drain? n
      let slots ← store? p.slots i s
      some ({ p with slots }, bs)

/-- Offers `bs` to every active channel. -/
def publish? (bs : Bytes) : Option (Pool × Nat) := do
  let slots ← p.slots.mapM (·.offer? bs)
  some ({ p with slots }, p.slots.countP Slot.active)

/-- The counters of channel `i`, if there is one. -/
def inspect? (i : Nat) : Option (Option ChannelStats) :=
  match p.slots[i]? with
  | none => some none
  | some s => do
      let queued ← s.queue.length?
      some (some ⟨s.enqueued, s.dequeued, s.dropped, queued⟩)

end Pool

/-- A status text, if the text is not too long: it is copied into its field. -/
def Message.fill? (severity : UInt8) (text : String) :
    Option (Option Message) :=
  let bytes := text.toUTF8.toList
  if bytes.length ≤ maxStatusText then do
    let n ← fits? bytes.length maxStatusText
    some (some ⟨statusTextId,
      severity :: (bytes.take n ++ List.replicate (maxStatusText - n) 0)⟩)
  else some none

namespace Downlink

variable (d : Downlink)

/-- Offers bytes to every active channel. -/
def publish? (bytes : Bytes) : Option (Downlink × Nat) := do
  let (pool, reached) ← d.pool.publish? bytes
  some ({ d with pool }, reached)

/-- Sends a message with the next sequence number. -/
def send? (component : UInt8) (m : Message) : Option (Downlink × Nat) := do
  let (pool, reached) ← d.pool.publish? (d.publisher.frame component m).encode
  some (⟨pool, { d.publisher with next := d.publisher.next + 1 }⟩, reached)

/-- Sends a status text with the next sequence number, if it is short enough. -/
def sendStatusText? (severity : UInt8) (text : String) :
    Option (Downlink × Nat) := do
  match ← Message.fill? severity text with
  | some m => d.send? d.publisher.component m
  | none => some (d, 0)

/-- Carries one request out. -/
def perform? : Op → Option (Downlink × Reply)
  | .claim => do
      let (pool, c) ← d.pool.claim?
      some ({ d with pool }, .claimed c)
  | .release i => do
      let (pool, _) ← d.pool.free? i none
      some ({ d with pool }, .done)
  | .releaseClaim c => do
      let (pool, freed) ← d.pool.free? c.index (some c.generation)
      some ({ d with pool }, .changed freed)
  | .drain i n => do
      let (pool, bytes) ← d.pool.drain? i n
      some ({ d with pool }, .drained bytes)
  | .publish bytes => do
      let (d, n) ← d.publish? bytes
      some (d, .reached n)
  | .sendFrame frame => do
      let (d, n) ← d.publish? frame.encode
      some (d, .reached n)
  | .send component m => do
      let (d, n) ← d.send? component m
      some (d, .reached n)
  | .sendHeartbeat component hb => do
      let (d, n) ← d.send? component hb.toMessage
      some (d, .reached n)
  | .sendStatusText severity text => do
      let (d, n) ← d.sendStatusText? severity text
      some (d, .reached n)
  -- these look at a channel only if it is there
  | .setOwner i name => some (d.perform (.setOwner i name))
  | .setActive i active => some (d.perform (.setActive i active))
  | .setClaimActive c active => some (d.perform (.setClaimActive c active))

end Downlink

/-- One round of a beacon. -/
def Beacon.round? (b : Beacon) (d : Downlink) : Option (Downlink × Nat) := do
  let (d, reached) ← d.send? Message.autopilotComponent b.heartbeat.toMessage
  if b.camera then
    let (d, _) ← d.send? Message.cameraComponent Heartbeat.ofCamera.toMessage
    some (d, reached)
  else some (d, reached)

end GroundLink
