import GroundLink.Channel.Queue

/-!
# One channel

A channel is occupied by one link at a time.  Each occupation has a number of
its own, the generation, so that a holder who lost the channel can be told
from the one who has it now.  While the channel is active, published frames
are offered to its queue; what does not fit is dropped and counted.
-/

namespace GroundLink

/-- One occupation of a channel: which channel, and the how-manieth
occupation. -/
structure Claim where
  index : Nat
  generation : Nat
deriving Repr, DecidableEq

/-- A channel with its queue and its counters.  The counters and the
generation outlive every occupation. -/
structure Slot where
  occupied : Bool := false
  generation : Nat := 0
  active : Bool := false
  queue : Queue
  owner : Option String := none
  enqueued : Nat := 0
  dequeued : Nat := 0
  dropped : Nat := 0
deriving Repr, DecidableEq

namespace Slot

variable (s : Slot)

/-- Begins the next occupation. -/
def occupy : Slot := { s with occupied := true, generation := s.generation + 1 }

/-- Ends the occupation and leaves nothing of it behind but the counters. -/
def vacate : Slot :=
  { s with
    occupied := false, active := false, queue := s.queue.reset, owner := none }

/-- Whether `generation` is the occupation that lasts now. -/
def isHeldAs (generation : Nat) : Bool :=
  s.occupied && s.generation == generation

/-- Takes what fits of `bs` if the channel is active, and counts the rest. -/
def offer (bs : Bytes) : Slot :=
  if s.active then
    let (queue, n) := s.queue.push bs
    { s with
      queue, enqueued := s.enqueued + n,
      dropped := s.dropped + (bs.length - n) }
  else s

/-- Hands out up to `n` waiting bytes. -/
def drain (n : Nat) : Slot × Bytes :=
  let (queue, bs) := s.queue.pop n
  ({ s with queue, dequeued := s.dequeued + bs.length }, bs)

@[simp] theorem offer_of_not_active (bs : Bytes) (h : s.active = false) :
    s.offer bs = s := by
  simp [offer, h]

@[simp] theorem active_offer (bs : Bytes) : (s.offer bs).active = s.active := by
  unfold offer; split <;> rfl

@[simp] theorem occupied_offer (bs : Bytes) :
    (s.offer bs).occupied = s.occupied := by
  unfold offer; split <;> rfl

@[simp] theorem generation_offer (bs : Bytes) :
    (s.offer bs).generation = s.generation := by
  unfold offer; split <;> rfl

end Slot

end GroundLink
