import GroundLink.Channel.Queue

/-!
# A queue is a bounded list

`Queue.toList` reads the waiting bytes off the ring.  For a ring whose head and
tail lie in it (`Queue.WellFormed`) the operations are those of a list that is
kept shorter than the ring:

* `toList_push`, `push_count` — taking in appends the longest prefix that fits;
* `pop_append`, `pop_count` — handing out takes from the front;
* `toList_reset` — forgetting leaves the empty list.

Around the end of the ring a sum of two positions passes the capacity at most
once (`wrap`), which is why no argument below counts how often either end has
gone around.
-/

namespace GroundLink

namespace Queue

/-- Both ends lie in the ring, and the ring has a cell to fill and one to leave
free. -/
structure WellFormed (q : Queue) : Prop where
  two_le : 2 ≤ q.capacity
  head_lt : q.head < q.capacity
  tail_lt : q.tail < q.capacity

/-- A position that has gone around at most once. -/
theorem wrap {a c : Nat} (h : a < 2 * c) :
    a % c = if a < c then a else a - c := by
  split
  · next hlt => exact Nat.mod_eq_of_lt hlt
  · next hge =>
      rw [Nat.mod_eq_sub_mod (by omega)]
      exact Nat.mod_eq_of_lt (by omega)

variable {q : Queue}

/-- The waiting bytes are in one piece, or go around the end of the ring. -/
theorem WellFormed.length_eq (h : q.WellFormed) :
    q.length = if q.head ≤ q.tail then q.tail - q.head else q.tail +
      q.capacity - q.head := by
  obtain ⟨_, hh, ht⟩ := h
  unfold length
  rw [wrap (by omega)]
  split <;> split <;> omega

/-- One cell always stays free. -/
theorem WellFormed.length_lt (h : q.WellFormed) : q.length < q.capacity := by
  have heq := h.length_eq
  obtain ⟨_, hh, ht⟩ := h
  split at heq <;> omega

/-- The tail is as far behind the head as bytes wait. -/
theorem WellFormed.tail_eq (h : q.WellFormed) :
    q.tail = (q.head + q.length) % q.capacity := by
  have hlt := h.length_lt
  have heq := h.length_eq
  obtain ⟨_, hh, ht⟩ := h
  rw [wrap (by omega)]
  split at heq <;> split <;> omega

/-- The two ends meet just if nothing waits. -/
theorem WellFormed.isEmpty_iff (h : q.WellFormed) :
    q.isEmpty = true ↔ q.length = 0 := by
  have heq := h.length_eq
  obtain ⟨_, hh, ht⟩ := h
  simp only [isEmpty, beq_iff_eq]
  split at heq <;> omega

/-- The ends are one cell apart just if no more bytes fit in. -/
theorem WellFormed.isFull_iff (h : q.WellFormed) :
    q.isFull = true ↔ q.length = q.capacity - 1 := by
  have heq := h.length_eq
  obtain ⟨h2, hh, ht⟩ := h
  simp only [isFull, beq_iff_eq]
  rw [wrap (by omega)]
  split at heq <;> split <;> omega

@[simp] theorem length_toList (q : Queue) :
    q.toList.length = q.length := by simp [toList]

/-- A new queue is well formed. -/
theorem WellFormed.empty? {capacity : Nat}
    (h : Queue.empty? capacity = some q) :
    q.WellFormed := by
  unfold Queue.empty? at h
  split at h
  · next h2 =>
      cases h
      exact ⟨by simpa [Queue.capacity] using h2, by
          simp [Queue.capacity]; omega,
        by simp [Queue.capacity]; omega⟩
  · cases h

/-! ## One byte in -/

/-- The tail goes around the ring. -/
theorem WellFormed.put (h : q.WellFormed) (b : UInt8) :
    (q.put b).WellFormed := by
  obtain ⟨h2, hh, ht⟩ := h
  constructor
  · rwa [capacity_put]
  · rwa [capacity_put]
  · rw [capacity_put]
    exact Nat.mod_lt _ (by omega)

/-- One byte in is one byte more, if there was room. -/
theorem WellFormed.length_put (h : q.WellFormed) (hfull : q.isFull = false)
    (b : UInt8) :
    (q.put b).length = q.length + 1 := by
  have hput := (h.put b).length_eq
  have heq := h.length_eq
  have hroom : ¬ q.length = q.capacity - 1 := by
    rw [← h.isFull_iff, hfull]
    simp
  obtain ⟨h2, hh, ht⟩ := h
  have htail : (q.put b).tail = if q.tail + 1 < q.capacity then q.tail + 1
      else q.tail + 1 - q.capacity := wrap (by omega)
  have hhead : (q.put b).head = q.head := rfl
  rw [capacity_put, htail, hhead] at hput
  rw [hput]
  split at heq <;> split <;> split <;> omega

/-- **One byte in** goes behind all that wait. -/
theorem WellFormed.toList_put (h : q.WellFormed) (hfull : q.isFull = false)
    (b : UInt8) :
    (q.put b).toList = q.toList ++ [b] := by
  have hlen := h.length_put hfull b
  have hlt := (h.put b).length_lt
  rw [hlen, capacity_put] at hlt
  have htail := h.tail_eq
  have hin : q.tail < q.cells.size := h.tail_lt
  -- the cell at the tail is not among those that wait
  have hcell : ∀ i, i < q.length → (q.head + i) % q.capacity ≠ q.tail := by
    intro i hi
    rw [htail, wrap (by have := h.head_lt; omega),
      wrap (by have := h.head_lt; omega)]
    have := h.head_lt
    split <;> split <;> omega
  unfold toList
  rw [hlen, List.range_succ, List.map_append, capacity_put]
  congr 1
  · apply List.map_congr_left
    intro i hi
    have hne := hcell i (List.mem_range.mp hi)
    simp [cell, Queue.put, Array.getD_eq_getD_getElem?, Ne.symm hne]
  · have hat : (q.head + q.length) % q.capacity = q.tail := htail.symm
    simp [cell, Queue.put, hat, Array.getD_eq_getD_getElem?, hin]

/-! ## One byte out -/

/-- The head goes around the ring. -/
theorem WellFormed.skip (h : q.WellFormed) : q.skip.WellFormed := by
  obtain ⟨h2, hh, ht⟩ := h
  exact ⟨h2, Nat.mod_lt _ (by omega), ht⟩

/-- One byte out is one byte less. -/
theorem WellFormed.length_skip (h : q.WellFormed) (hne : q.isEmpty = false) :
    q.length = q.skip.length + 1 := by
  have hskip := h.skip.length_eq
  have heq := h.length_eq
  have hpos : ¬ q.length = 0 := by
    rw [← h.isEmpty_iff, hne]
    simp
  obtain ⟨h2, hh, ht⟩ := h
  have hhead : q.skip.head = if q.head + 1 < q.capacity then q.head + 1
      else q.head + 1 - q.capacity := wrap (by omega)
  have htail : q.skip.tail = q.tail := rfl
  rw [capacity_skip, hhead, htail] at hskip
  rw [hskip]
  split at heq <;> split <;> split <;> omega

/-- **One byte out** is the oldest. -/
theorem WellFormed.toList_skip (h : q.WellFormed) (hne : q.isEmpty = false) :
    q.toList = q.cell q.head :: q.skip.toList := by
  unfold toList
  rw [h.length_skip hne, List.range_succ_eq_map, List.map_cons, List.map_map]
  congr 1
  · rw [Nat.add_zero, Nat.mod_eq_of_lt h.head_lt]
  · apply List.map_congr_left
    intro i _
    have hpos : (q.head + (i + 1)) % q.capacity =
        (q.skip.head + i) % q.skip.capacity := by
      simp only [Queue.skip, Queue.capacity, Nat.mod_add_mod]
      congr 1
      omega
    simp only [Function.comp, Nat.succ_eq_add_one, hpos]
    rfl

/-! ## Runs of bytes -/

/-- A push keeps the ring in form, full or not. -/
theorem WellFormed.push (h : q.WellFormed) (bs : Bytes) :
    (q.push bs).1.WellFormed := by
  induction bs generalizing q with
  | nil => exact h
  | cons b rest ih =>
      simp only [Queue.push]
      split
      · exact h
      · exact ih (h.put b)

/-- **As many bytes are taken in as fit.** -/
theorem WellFormed.push_count (h : q.WellFormed) (bs : Bytes) :
    (q.push bs).2 = min bs.length q.free := by
  induction bs generalizing q with
  | nil => simp [Queue.push]
  | cons b rest ih =>
      have hlt := h.length_lt
      simp only [Queue.push]
      split
      · next hfull =>
          have := h.isFull_iff.mp hfull
          simp only [Queue.free]
          omega
      · next hfull =>
          have hroom : q.isFull = false := by simpa using hfull
          have hlen := h.length_put hroom b
          have hlt' := (h.put b).length_lt
          rw [hlen, capacity_put] at hlt'
          rw [ih (h.put b)]
          simp only [Queue.free, hlen, capacity_put, List.length_cons]
          omega

/-- **Taking in appends** what fits, first byte first. -/
theorem WellFormed.toList_push (h : q.WellFormed) (bs : Bytes) :
    (q.push bs).1.toList = q.toList ++ bs.take (q.push bs).2 := by
  induction bs generalizing q with
  | nil => simp [Queue.push]
  | cons b rest ih =>
      simp only [Queue.push]
      split
      · simp
      · next hfull =>
          have hroom : q.isFull = false := by simpa using hfull
          rw [ih (h.put b), h.toList_put hroom b]
          simp

/-- A pop keeps the ring in form, empty or not. -/
theorem WellFormed.pop (h : q.WellFormed) (n : Nat) :
    (q.pop n).1.WellFormed := by
  induction n generalizing q with
  | zero => exact h
  | succ n ih =>
      simp only [Queue.pop]
      split
      · exact h
      · exact ih h.skip

/-- **Handing out takes from the front**, and what is left waits on. -/
theorem WellFormed.pop_append (h : q.WellFormed) (n : Nat) :
    q.toList = (q.pop n).2 ++ (q.pop n).1.toList := by
  induction n generalizing q with
  | zero => rfl
  | succ n ih =>
      simp only [Queue.pop]
      split
      · rfl
      · next hne =>
          rw [h.toList_skip (by simpa using hne), ih h.skip]
          rfl

/-- **As many bytes are handed out as wait**, up to the number asked for. -/
theorem WellFormed.pop_count (h : q.WellFormed) (n : Nat) :
    (q.pop n).2.length = min n q.length := by
  induction n generalizing q with
  | zero => simp [Queue.pop]
  | succ n ih =>
      simp only [Queue.pop]
      split
      · next he =>
          have := h.isEmpty_iff.mp he
          simp [this]
      · next hne =>
          have := h.length_skip (by simpa using hne)
          simp only [List.length_cons, ih h.skip]
          omega

/-- A queue that is reset starts again at the first cell. -/
theorem WellFormed.reset (h : q.WellFormed) : q.reset.WellFormed := by
  have h2 := h.two_le
  have hpos : 0 < q.capacity := by omega
  exact ⟨h2, hpos, hpos⟩

@[simp] theorem toList_reset (q : Queue) : q.reset.toList = [] := by
  simp [toList, Queue.length, Queue.reset, Queue.capacity]

/-- Nothing waits in a new queue. -/
theorem toList_empty? {capacity : Nat} (h : Queue.empty? capacity = some q) :
    q.toList = [] := by
  unfold Queue.empty? at h
  split at h
  · cases h
    simp [toList, Queue.length, Queue.capacity]
  · cases h

end Queue

end GroundLink
