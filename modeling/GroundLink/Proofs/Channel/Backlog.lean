import GroundLink.Channel.Backlog
import GroundLink.Proofs.Channel.Fifo

/-!
# A queue is a backlog

To its owner, a ring of `capacity` cells is a list of bytes with room for
`capacity - 1` of them.  `Queue.Keeps` is the view of the ring that says so;
`Keeps.perform` carries it through one operation, with the same answer on both
sides, and `Keeps.performAll` through any number of them.  Where head and tail
are by then does not come into it: what can be asked of the ring
(`Keeps.observed`) follows from the view alone.
-/

namespace GroundLink

namespace Queue

variable {room : Nat} {q : Queue} {b : Backlog room}

/-- The ring keeps the bytes of the backlog, and a cell more than there is room
for. -/
structure Keeps (q : Queue) (b : Backlog room) : Prop where
  wellFormed : q.WellFormed
  capacity : q.capacity = room + 1
  toList : q.toList = b.bytes

/-- Queue and list agree on how much waits. -/
theorem Keeps.length (h : q.Keeps b) : q.length = b.bytes.length := by
  rw [← h.toList, length_toList]

/-- Queue and list agree on how much there is room for. -/
theorem Keeps.free (h : q.Keeps b) : q.free = b.free := by
  rw [Queue.free, Backlog.free, h.capacity, h.length, Nat.add_sub_cancel]

/-- A new ring keeps nothing. -/
theorem keeps_empty? (hroom : 1 ≤ room) :
    ∃ q, Queue.empty? (room + 1) = some q ∧
      q.Keeps (.empty : Backlog room) := by
  have hnew :
      Queue.empty? (room + 1) = some ⟨Array.replicate (room + 1) 0, 0, 0⟩ :=
    if_pos (by omega)
  exact ⟨_, hnew, .empty? hnew, Array.size_replicate, toList_empty? hnew⟩

/-! ## Operations -/

/-- **Taking in** is the same for the ring and the backlog. -/
theorem Keeps.push (h : q.Keeps b) (bs : Bytes) :
    (q.push bs).1.Keeps (b.push bs).1 ∧ (q.push bs).2 = (b.push bs).2 := by
  have hcount : (q.push bs).2 = min bs.length b.free := by
    rw [h.wellFormed.push_count, h.free]
  refine ⟨⟨h.wellFormed.push bs, ?_, ?_⟩, hcount⟩
  · rw [capacity_push, h.capacity]
  · rw [h.wellFormed.toList_push, h.toList, hcount]
    rfl

/-- **Handing out** is the same for the ring and the backlog. -/
theorem Keeps.pop (h : q.Keeps b) (n : Nat) :
    (q.pop n).1.Keeps (b.pop n).1 ∧ (q.pop n).2 = (b.pop n).2 := by
  have hcount : (q.pop n).2.length = min n b.bytes.length := by
    rw [h.wellFormed.pop_count, h.length]
  have hsplit : b.bytes = (q.pop n).2 ++ (q.pop n).1.toList := by
    rw [← h.toList]
    exact h.wellFormed.pop_append n
  refine ⟨⟨h.wellFormed.pop n, ?_, ?_⟩, ?_⟩
  · rw [capacity_pop, h.capacity]
  · show (q.pop n).1.toList = b.bytes.drop (min n b.bytes.length)
    rw [← hcount, hsplit, List.drop_left]
  · show (q.pop n).2 = b.bytes.take (min n b.bytes.length)
    rw [← hcount, hsplit, List.take_left]

/-- **One operation** has the same answer from the ring and the backlog, and the
ring keeps what the backlog holds then. -/
theorem Keeps.perform (h : q.Keeps b) (op : Op) :
    (q.perform op).1.Keeps (b.perform op).1 ∧
    (q.perform op).2 = (b.perform op).2 := by
  cases op with
  | push bs =>
      obtain ⟨hkeeps, hcount⟩ := h.push bs
      exact ⟨hkeeps, congrArg Answer.took hcount⟩
  | pop n =>
      obtain ⟨hkeeps, hbytes⟩ := h.pop n
      exact ⟨hkeeps, congrArg Answer.gave hbytes⟩
  | reset =>
      refine ⟨⟨h.wellFormed.reset, ?_, toList_reset q⟩, rfl⟩
      exact (capacity_reset q).trans h.capacity

/-- **Any operations in any order.** -/
theorem Keeps.performAll (h : q.Keeps b) (ops : List Op) :
    (q.performAll ops).1.Keeps (b.performAll ops).1 ∧
      (q.performAll ops).2 = (b.performAll ops).2 := by
  induction ops generalizing q b with
  | nil => exact ⟨h, rfl⟩
  | cons op ops ih =>
      obtain ⟨hnext, hanswer⟩ := h.perform op
      obtain ⟨hlast, hanswers⟩ := ih hnext
      refine ⟨hlast, ?_⟩
      simp only [Queue.performAll, Backlog.performAll, hanswer, hanswers]

/-! ## Observers -/

/-- **What can be asked of the ring** is answered from the backlog, wherever
head and tail are. -/
theorem Keeps.observed (h : q.Keeps b) :
    q.head < room + 1 ∧ q.tail < room + 1 ∧ q.length = b.bytes.length ∧
      q.free = room - b.bytes.length ∧ (q.isEmpty = true ↔ b.bytes.length = 0) ∧
      (q.isFull = true ↔ b.bytes.length = room) := by
  have hhead := h.wellFormed.head_lt
  have htail := h.wellFormed.tail_lt
  have hempty := h.wellFormed.isEmpty_iff
  have hfull := h.wellFormed.isFull_iff
  rw [h.capacity] at hhead htail hfull
  rw [h.length] at hempty hfull
  exact ⟨hhead, htail, h.length, h.free, hempty, hfull⟩

/-- **A ring of cells is a bounded list.**  From two cells on there is a new
queue, and whatever is done with it then, in any order and with any bytes and
numbers, it answers as a list of bytes does that starts empty and has room for
one byte less than there are cells: it takes in the first bytes as many as fit,
behind all that wait, and says how many; it hands out the first that wait, in
order, as many as there are up to the number asked for.  Head and tail are in
the ring then, however often they have gone around its end, and the number of
bytes that wait, the room that is left and whether the queue is empty or full
are those of the list. -/
theorem ring_is_bounded_list {capacity : Nat} (hcapacity : 2 ≤ capacity) :
    ∃ new, Queue.empty? capacity = some new ∧ ∀ ops : List Op,
      let q := (new.performAll ops).1
      let b := ((.empty : Backlog (capacity - 1)).performAll ops).1
      (new.performAll ops).2 =
        ((.empty : Backlog (capacity - 1)).performAll ops).2 ∧
        q.capacity = capacity ∧ q.toList = b.bytes ∧
        b.bytes.length ≤ capacity - 1 ∧
        q.head < capacity ∧ q.tail < capacity ∧
        q.length = b.bytes.length ∧ q.free = capacity - 1 - b.bytes.length ∧
        (q.isEmpty = true ↔ b.bytes.length = 0) ∧
        (q.isFull = true ↔ b.bytes.length = capacity - 1) := by
  obtain ⟨room, rfl⟩ : ∃ room, capacity = room + 1 := ⟨capacity - 1, by omega⟩
  have hroom : 1 ≤ room := by omega
  obtain ⟨new, hnew, hkeeps⟩ := keeps_empty? hroom
  refine ⟨new, hnew, fun ops => ?_⟩
  obtain ⟨hlast, hanswers⟩ := hkeeps.performAll ops
  exact ⟨hanswers, hlast.capacity, hlast.toList, Backlog.fits _, hlast.observed⟩

/-- Three bytes are offered where there is room for two, one is taken out, and
two more are offered: the third of all waits in the first cell then. -/
def roundTheEnd : List Op := [.push [1, 2, 3], .pop 1, .push [4, 5]]

/-- A ring of three cells goes around its end, and has two bytes then. -/
theorem three_cells_bounded_list :
    2 ≤ 3 ∧ ∃ new, Queue.empty? 3 = some new ∧
      (new.performAll roundTheEnd).2 = [.took 2, .gave [1], .took 1] ∧
      (new.performAll roundTheEnd).1.toList = [2, 4] ∧
      (new.performAll roundTheEnd).1.isFull = true := by
  have hcapacity : 2 ≤ 3 := by decide
  obtain ⟨new, hnew, hall⟩ := ring_is_bounded_list hcapacity
  obtain ⟨hanswers, _, hbytes, _, _, _, _, _, _, hfull⟩ := hall roundTheEnd
  exact ⟨hcapacity, new, hnew, hanswers, hbytes, hfull.mpr rfl⟩

end Queue

end GroundLink
