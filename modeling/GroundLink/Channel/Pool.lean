import GroundLink.Channel.Slot

/-!
# The channel pool

A fixed row of channels and, beside it, a row of marks that says which of them
are taken.  The marks are what a search for a free channel looks at.  Taking a
channel is two steps, `mark` and `occupy`; giving it back is two steps,
`vacate` and `unmark`, in that order, so that a channel is clean before anyone
can find it again.  `claim` and `free` are the two steps in one go.

Whoever takes a channel gets a `Claim`.  Operations that ask for a claim do
nothing once that occupation is over; those that ask for an index act on
whoever holds the channel now.
-/

namespace GroundLink

/-- Channels in a row, and the marks of those that are taken. -/
structure Pool where
  taken : List Bool
  slots : List Slot
deriving Repr, DecidableEq

/-- What the counters of one channel say, with the bytes that wait now. -/
structure ChannelStats where
  enqueued : Nat
  dequeued : Nat
  dropped : Nat
  queued : Nat
deriving Repr, DecidableEq

namespace Pool

/-- Channels of a pool whose size nobody chose. -/
def defaultChannels : Nat := 4

/-- `channels` free channels with queues of `queueCapacity` cells.  A pool of
no channels builds no queue, so that it may ask for any capacity. -/
def create? (channels queueCapacity : Nat) : Option Pool :=
  if channels = 0 then some ⟨[], []⟩
  else (Queue.empty? queueCapacity).map fun queue =>
    ⟨List.replicate channels false, List.replicate channels { queue }⟩

/-- Queues of two cells or more can always be built. -/
theorem isSome_create? (channels : Nat) {queueCapacity : Nat}
    (h : 2 ≤ queueCapacity) :
    (create? channels queueCapacity).isSome = true := by
  unfold create? Queue.empty?
  rw [if_pos h]
  split <;> rfl

variable (p : Pool)

/-- How many channels there are. -/
def capacity : Nat := p.slots.length

/-- The pool with one channel changed; an index out of range changes nothing. -/
def modify (i : Nat) (f : Slot → Slot) : Pool :=
  { p with slots := p.slots.modify i f }

/-! ## Taking a channel -/

/-- Finds the lowest index that is not marked, and marks it. -/
def mark : Pool × Option Nat :=
  match p.taken.findIdx? (! ·) with
  | none => (p, none)
  | some i => ({ p with taken := p.taken.set i true }, some i)

/-- Begins the next occupation of a marked channel. -/
def occupy (i : Nat) : Pool × Claim :=
  let p := p.modify i Slot.occupy
  (p, ⟨i, (p.slots[i]?.map Slot.generation).getD 0⟩)

/-- Takes the lowest free channel; `none` when all are taken. -/
def claim : Pool × Option Claim :=
  match p.mark with
  | (p, none) => (p, none)
  | (p, some i) =>
      let (p, c) := p.occupy i
      (p, some c)

/-! ## Giving it back -/

/-- Whether channel `i` is occupied and, if a generation is named, by that
one. -/
def isFreeable (i : Nat) (generation : Option Nat) : Bool :=
  match p.slots[i]? with
  | none => false
  | some s => s.occupied && generation.all (· == s.generation)

/-- Ends the occupation of channel `i`, if it is the one meant. -/
def vacate (i : Nat) (generation : Option Nat) : Pool × Bool :=
  if p.isFreeable i generation then (p.modify i Slot.vacate, true)
    else (p, false)

/-- Lets channel `i` be found again. -/
def unmark (i : Nat) : Pool := { p with taken := p.taken.set i false }

/-- Gives channel `i` back, if it is occupied as meant. -/
def free (i : Nat) (generation : Option Nat) : Pool × Bool :=
  match p.vacate i generation with
  | (p, false) => (p, false)
  | (p, true) => (p.unmark i, true)

/-- Gives channel `i` back, whoever holds it. -/
def release (i : Nat) : Pool := (p.free i none).1

/-- Gives the claimed channel back, if the claim still holds it. -/
def releaseClaim (c : Claim) : Pool × Bool := p.free c.index (some c.generation)

/-! ## Asking -/

def isOccupied (i : Nat) : Bool := (p.slots[i]?.map Slot.occupied).getD false

def isActive (i : Nat) : Bool := (p.slots[i]?.map Slot.active).getD false

/-- Whether bytes wait on channel `i`. -/
def hasPending (i : Nat) : Bool :=
  (p.slots[i]?.map fun s => ! s.queue.isEmpty).getD false

/-- How many bytes wait on channel `i`. -/
def queued (i : Nat) : Nat := (p.slots[i]?.map fun s => s.queue.length).getD 0

def owner (i : Nat) : Option String := p.slots[i]?.bind Slot.owner

/-- Whether the claim is the occupation that lasts now. -/
def holds (c : Claim) : Bool :=
  (p.slots[c.index]?.map (·.isHeldAs c.generation)).getD false

def occupiedCount : Nat := p.slots.countP Slot.occupied

def stats? (i : Nat) : Option ChannelStats :=
  p.slots[i]?.map fun s => ⟨s.enqueued, s.dequeued, s.dropped, s.queue.length⟩

/-- Bytes that any channel has refused since the pool was made. -/
def droppedBytes : Nat := p.slots.foldl (fun n s => n + s.dropped) 0

/-! ## Changing -/

/-- Names the owner of channel `i`; a free channel has none. -/
def setOwner (i : Nat) (name : String) : Pool :=
  p.modify i fun s => if s.occupied then { s with owner := some name } else s

/-- Sets the flag of channel `i`, whoever holds it, and says whether that
changed it.  A free channel cannot be made active. -/
def setActive (i : Nat) (active : Bool) : Pool × Bool :=
  match p.slots[i]? with
  | none => (p, false)
  | some s =>
      if active && ! s.occupied then (p, false)
      else (p.modify i ({ · with active }), s.active != active)

/-- Sets the flag of the claimed channel while the claim holds it. -/
def setClaimActive (c : Claim) (active : Bool) : Pool × Bool :=
  if p.holds c
    then (p.modify c.index ({ · with active }), p.isActive c.index != active)
  else (p, false)

/-- Hands out up to `n` bytes that wait on channel `i`. -/
def drain (i n : Nat) : Pool × Bytes :=
  match p.slots[i]? with
  | none => (p, [])
  | some s =>
      let (s, bs) := s.drain n
      ({ p with slots := p.slots.set i s }, bs)

/-- Offers `bs` to every active channel.  The number is that of the channels
it was offered to, full ones included. -/
def publish (bs : Bytes) : Pool × Nat :=
  ({ p with slots := p.slots.map (·.offer bs) }, p.slots.countP Slot.active)

@[simp] theorem capacity_modify (i : Nat) (f : Slot → Slot) :
    (p.modify i f).capacity = p.capacity := by simp [modify, capacity]

@[simp] theorem capacity_publish (bs : Bytes) :
    (p.publish bs).1.capacity = p.capacity := by
  simp [publish, capacity]

/-- A claim that does not hold its channel cannot give it back. -/
theorem isFreeable_claim (c : Claim) :
    p.isFreeable c.index (some c.generation) = p.holds c := by
  unfold isFreeable holds Slot.isHeldAs
  cases p.slots[c.index]? with
  | none => rfl
  | some s => simp [Bool.beq_comm]

end Pool

end GroundLink
