import GroundLink.Bytes

/-!
# Bounded byte queues

One channel's outbound bytes wait in a ring of cells.  One cell is always
left free, so that `head = tail` means empty: a queue of capacity `C` holds at
most `C - 1` bytes.  `Queue.toList` reads the waiting bytes off the ring, the
oldest first; it is the view through which the operations are understood.
-/

namespace GroundLink

/-- A ring of cells.  The waiting bytes run from `head` up to `tail`, around
the end of the ring if need be. -/
structure Queue where
  cells : Array UInt8
  head : Nat
  tail : Nat
deriving Repr, DecidableEq

namespace Queue

/-- Cells of a queue whose capacity nobody chose. -/
def defaultCapacity : Nat := 2048

/-- What is said when a queue is asked for with fewer than two cells. -/
def tooSmall : String := "ByteQueue capacity must be at least 2"

/-- An empty queue.  It needs a cell to fill and a cell to leave free. -/
def empty? (capacity : Nat) : Option Queue :=
  if 2 ≤ capacity then some ⟨Array.replicate capacity 0, 0, 0⟩ else none

variable (q : Queue)

/-- All cells, the free one included. -/
def capacity : Nat := q.cells.size

/-- Bytes that wait. -/
def length : Nat := (q.tail + q.capacity - q.head) % q.capacity

/-- Bytes that can still be taken in. -/
def free : Nat := q.capacity - 1 - q.length

def isEmpty : Bool := q.head == q.tail

def isFull : Bool := (q.tail + 1) % q.capacity == q.head

/-- The byte in a cell. -/
def cell (i : Nat) : UInt8 := q.cells.getD i 0

/-- The waiting bytes, the oldest first. -/
def toList : Bytes :=
  (List.range q.length).map fun i => q.cell ((q.head + i) % q.capacity)

/-- Fills the cell at the tail and moves the tail on. -/
def put (b : UInt8) : Queue :=
  let next := (q.tail + 1) % q.capacity
  { q with cells := q.cells.setIfInBounds q.tail b, tail := next }

/-- Gives up the cell at the head. -/
def skip : Queue :=
  { q with head := (q.head + 1) % q.capacity }

/-- Takes in bytes until the queue is full; the rest is refused.  The number
is that of the bytes taken in. -/
def push (q : Queue) : Bytes → Queue × Nat
  | [] => (q, 0)
  | b :: rest =>
      if q.isFull then (q, 0)
      else
        let (q, n) := push (q.put b) rest
        (q, n + 1)

/-- Hands out up to `n` bytes, the oldest first. -/
def pop (q : Queue) : Nat → Queue × Bytes
  | 0 => (q, [])
  | n + 1 =>
      if q.isEmpty then (q, [])
      else
        let (rest, bs) := pop q.skip n
        (rest, q.cell q.head :: bs)

/-- Forgets every waiting byte. -/
def reset : Queue := { q with head := 0, tail := 0 }

@[simp] theorem capacity_put (b : UInt8) : (q.put b).capacity = q.capacity := by
  simp [put, capacity]

@[simp] theorem capacity_skip : q.skip.capacity = q.capacity := rfl

@[simp] theorem capacity_reset : q.reset.capacity = q.capacity := rfl

@[simp] theorem capacity_push (bs : Bytes) :
    (q.push bs).1.capacity = q.capacity := by
  induction bs generalizing q with
  | nil => rfl
  | cons b rest ih => simp only [push]; split <;> simp [ih]

@[simp] theorem capacity_pop (n : Nat) : (q.pop n).1.capacity = q.capacity := by
  induction n generalizing q with
  | zero => rfl
  | succ n ih => simp only [pop]; split <;> simp [ih]

/-- A queue never takes in more than it was offered. -/
theorem push_le (bs : Bytes) : (q.push bs).2 ≤ bs.length := by
  induction bs generalizing q with
  | nil => exact Nat.le_refl _
  | cons b rest ih =>
      simp only [push]
      split
      · exact Nat.zero_le _
      · exact Nat.succ_le_succ (ih (q.put b))

/-- A queue never hands out more than was asked for. -/
theorem length_pop_le (n : Nat) : (q.pop n).2.length ≤ n := by
  induction n generalizing q with
  | zero => exact Nat.le_refl _
  | succ n ih =>
      simp only [pop]
      split
      · exact Nat.zero_le _
      · exact Nat.succ_le_succ (ih q.skip)

end Queue

end GroundLink
