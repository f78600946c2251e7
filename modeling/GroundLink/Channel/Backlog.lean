import GroundLink.Channel.Queue

/-!
# Backlogs

A backlog is what a byte queue is to its owner: a list of bytes, the oldest
first, that never holds more than there is room for.  It says what each
operation of a queue takes, gives and leaves, without cells and without a way
around their end.
-/

namespace GroundLink

namespace Queue

/-- What the owner of a queue does with it. -/
inductive Op
  | push (bs : Bytes)
  /-- Asks for up to `n` bytes. -/
  | pop (n : Nat)
  | reset
deriving Repr, DecidableEq

/-- What comes of it. -/
inductive Answer
  /-- So many bytes have been taken in. -/
  | took (n : Nat)
  | gave (bs : Bytes)
  | forgot
deriving Repr, DecidableEq

/-- Does one thing with the queue. -/
def perform (q : Queue) : Op → Queue × Answer
  | .push bs => ((q.push bs).1, .took (q.push bs).2)
  | .pop n => ((q.pop n).1, .gave (q.pop n).2)
  | .reset => (q.reset, .forgot)

/-- Does things with the queue one after the other. -/
def performAll (q : Queue) : List Op → Queue × List Answer
  | [] => (q, [])
  | op :: ops =>
      (((q.perform op).1.performAll ops).1,
        (q.perform op).2 :: ((q.perform op).1.performAll ops).2)

end Queue

/-- Bytes that wait, the oldest first, where there is room for `room` of
them. -/
structure Backlog (room : Nat) where
  bytes : Bytes
  fits : bytes.length ≤ room

namespace Backlog

variable {room : Nat} (b : Backlog room)

/-- Nothing waits. -/
def empty : Backlog room := ⟨[], Nat.zero_le room⟩

/-- Bytes that can still be taken in. -/
def free : Nat := room - b.bytes.length

/-- Takes in the first bytes, as many as there is room for, behind all that
wait. -/
def push (bs : Bytes) : Backlog room × Nat :=
  ({ bytes := b.bytes ++ bs.take (min bs.length b.free)
     fits := by
       have hfits := b.fits
       simp only [free, List.length_append, List.length_take]
       omega }, min bs.length b.free)

/-- Hands out the first bytes, as many as wait up to `n`. -/
def pop (n : Nat) : Backlog room × Bytes :=
  ({ bytes := b.bytes.drop (min n b.bytes.length)
     fits := by
       have hfits := b.fits
       simp only [List.length_drop]
       omega }, b.bytes.take (min n b.bytes.length))

/-- Does one thing with the backlog. -/
def perform : Queue.Op → Backlog room × Queue.Answer
  | .push bs => ((b.push bs).1, .took (b.push bs).2)
  | .pop n => ((b.pop n).1, .gave (b.pop n).2)
  | .reset => (empty, .forgot)

/-- Does things with the backlog one after the other. -/
def performAll (b : Backlog room) :
    List Queue.Op → Backlog room × List Queue.Answer
  | [] => (b, [])
  | op :: ops =>
      (((b.perform op).1.performAll ops).1,
        (b.perform op).2 :: ((b.perform op).1.performAll ops).2)

end Backlog

end GroundLink
