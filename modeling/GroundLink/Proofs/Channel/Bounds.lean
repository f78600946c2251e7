import GroundLink.Channel.Bounds
import GroundLink.Proofs.Channel.Allocation
import Mathlib.Data.List.Basic

/-!
# Channels keep within bounds

Every checked operation on a sound pool succeeds and does what the operation
does.  Each has a reason of its own: a queue of two cells or more with both ends
in range, as many marks as there are channels, a count that is no more than what
was offered.
-/

namespace GroundLink

open Checked

/-! ## Steps -/

namespace Checked

/-- A subtraction that does not go below zero passes its check. -/
theorem sub?_eq {a b : Nat} (h : b ≤ a) : sub? a b = some (a - b) := if_pos h

/-- A remainder by a positive divisor passes its check. -/
theorem mod?_eq {b : Nat} (h : 0 < b) (a : Nat) :
    mod? a b = some (a % b) := if_pos h

/-- A write inside the array passes its check. -/
theorem store?_eq {α : Type} {xs : List α} {i : Nat} (h : i < xs.length)
    (x : α) :
    store? xs i x = some (xs.set i x) := if_pos h

theorem fits?_eq {n size : Nat} (h : n ≤ size) :
    fits? n size = some n := if_pos h

theorem positive?_eq {period : Nat} (h : 0 < period) :
    positive? period = some period := if_pos h

end Checked

/-! ## Queues -/

namespace Queue

variable {q : Queue}

/-- The capacity is added before the head is taken off, so that the length never
goes below zero. -/
theorem WellFormed.length? (h : q.WellFormed) : q.length? = some q.length := by
  obtain ⟨h2, hhead, _⟩ := h
  have hle : q.head ≤ q.tail + q.capacity := by omega
  have hpos : 0 < q.capacity := by omega
  simp [Queue.length?, sub?_eq hle, mod?_eq hpos, Queue.length]

/-- One cell is left free, so that the bytes that wait are fewer than the
cells. -/
theorem WellFormed.free? (h : q.WellFormed) : q.free? = some q.free := by
  have hlength := h.length?
  have hlt := h.length_lt
  have hone : 1 ≤ q.capacity := by omega
  have hle : q.length ≤ q.capacity - 1 := by omega
  simp [Queue.free?, sub?_eq hone, hlength, sub?_eq hle, Queue.free]

/-- A well-formed queue can tell whether it is full. -/
theorem WellFormed.isFull? (h : q.WellFormed) : q.isFull? = some q.isFull := by
  have hpos : 0 < q.capacity := Nat.lt_of_lt_of_le Nat.two_pos h.two_le
  simp [Queue.isFull?, mod?_eq hpos, Queue.isFull]

/-- The write position of a well-formed queue lies in its cells. -/
theorem WellFormed.put? (h : q.WellFormed) (b : UInt8) :
    q.put? b = some (q.put b) := by
  have hpos : 0 < q.capacity := Nat.lt_of_lt_of_le Nat.two_pos h.two_le
  have hin : q.tail < q.cells.size := h.tail_lt
  simp [Queue.put?, mod?_eq hpos, hin, Queue.put]

/-- The read position of a well-formed queue lies in its cells. -/
theorem WellFormed.take? (h : q.WellFormed) :
    q.take? = some (q.cell q.head, q.skip) := by
  have hpos : 0 < q.capacity := Nat.lt_of_lt_of_le Nat.two_pos h.two_le
  have hin : q.head < q.cells.size := h.head_lt
  simp [Queue.take?, mod?_eq hpos, hin, cell, Queue.skip]

/-- A push is a chain of single puts, and each of them keeps the queue well
formed for the next. -/
theorem WellFormed.push? (h : q.WellFormed) (bs : Bytes) :
    q.push? bs = some (q.push bs) := by
  induction bs generalizing q with
  | nil => rfl
  | cons b rest ih =>
      have hfull := h.isFull?
      have hput := h.put? b
      have hrest := ih (h.put b)
      unfold Queue.push? Queue.push
      rw [hfull, hput]
      cases q.isFull with
      | true => rfl
      | false => simp [hrest]

/-- A pop is a chain of single takes, in the same way as a push. -/
theorem WellFormed.pop? (h : q.WellFormed) (n : Nat) :
    q.pop? n = some (q.pop n) := by
  induction n generalizing q with
  | zero => rfl
  | succ n ih =>
      have htake := h.take?
      have hrest := ih h.skip
      unfold Queue.pop? Queue.pop
      rw [htake]
      cases q.isEmpty with
      | true => rfl
      | false => simp [hrest]

end Queue

/-! ## Channels -/

namespace Slot

variable {s : Slot}

/-- A sound slot has a well-formed queue, so that an offer runs without a
fault. -/
theorem Sound.offer? (h : s.Sound) (bs : Bytes) :
    s.offer? bs = some (s.offer bs) := by
  have hpush := h.queue.push? bs
  have hle := s.queue.push_le bs
  unfold Slot.offer? Slot.offer
  cases s.active with
  | true => simp [hpush, sub?_eq hle]
  | false => rfl

/-- A drain of a sound slot runs without a fault. -/
theorem Sound.drain? (h : s.Sound) (n : Nat) :
    s.drain? n = some (s.drain n) := by
  have hpop := h.queue.pop? n
  simp [Slot.drain?, hpop, Slot.drain]

end Slot

namespace Pool

variable {p : Pool}

/-- The search finds marks only, and every mark of a sound pool has its slot. -/
theorem Sound.claim? (h : p.Sound) : p.claim? = some p.claim := by
  unfold Pool.claim? Pool.claim Pool.mark
  cases hfind : p.taken.findIdx? (! ·) with
  | none => rfl
  | some i =>
      obtain ⟨hi, _⟩ := List.findIdx?_eq_some_iff_getElem.mp hfind
      have hin : i < p.slots.length := Nat.lt_of_lt_of_eq hi h.length_taken
      have hset : p.slots.set i p.slots[i].occupy =
          p.slots.modify i Slot.occupy :=
        (List.modify_eq_set_get Slot.occupy hin).symm
      simp [store?_eq hi, store?_eq hin, hin, hset, occupy, Pool.modify]

/-- A release touches the slot only after the index has been compared. -/
theorem Sound.free? (h : p.Sound) (i : Nat) (generation : Option Nat) :
    p.free? i generation = some (p.free i generation) := by
  rw [free_eq]
  unfold Pool.free? Pool.vacate
  cases hfree : p.isFreeable i generation with
  | false => rfl
  | true =>
      -- only a channel that is there can be given back
      have hin : i < p.taken.length := by
        cases hslot : p.slots[i]? with
        | none => simp [isFreeable, hslot] at hfree
        | some s =>
            have hslots : i < p.slots.length :=
              (List.getElem?_eq_some_iff.mp hslot).1
            exact Nat.lt_of_lt_of_eq hslots h.length_taken.symm
      have hstore : store? (p.modify i Slot.vacate).taken i false =
          some ((p.modify i Slot.vacate).taken.set i false) :=
        store?_eq hin false
      simp [hstore, unmark]

/-- To give back a channel that has no mark goes out of bounds. -/
example :
    Pool.free? ⟨[], [{ queue := ⟨#[0, 0], 0, 0⟩, occupied := true }]⟩ 0 none =
      none := by
  decide

/-- A drain by an index outside of the pool is answered with no bytes, and one
inside finds a sound slot. -/
theorem Sound.drain? (h : p.Sound) (i n : Nat) :
    p.drain? i n = some (p.drain i n) := by
  unfold Pool.drain? Pool.drain
  cases hslot : p.slots[i]? with
  | none => rfl
  | some s =>
      obtain ⟨hin, _⟩ := List.getElem?_eq_some_iff.mp hslot
      have hdrain := (h.slots s (List.mem_of_getElem? hslot)).drain? n
      simp [hdrain, store?_eq hin]

/-- What can be done to every channel can be done to all of them. -/
theorem mapM_eq_map {α β : Type} {f : α → Option β} {g : α → β} {xs : List α}
    (h : ∀ x ∈ xs, f x = some (g x)) : xs.mapM f = some (xs.map g) := by
  induction xs with
  | nil => rfl
  | cons x xs ih =>
      have hrest := ih fun y hy => h y (List.mem_cons_of_mem x hy)
      have hx := h x List.mem_cons_self
      simp [List.mapM_cons, hx, hrest]

/-- Publishing visits the slots of the pool, all of them sound. -/
theorem Sound.publish? (h : p.Sound) (bs : Bytes) :
    p.publish? bs = some (p.publish bs) := by
  have hoffers := mapM_eq_map fun s hs => (h.slots s hs).offer? bs
  simp [Pool.publish?, hoffers, Pool.publish]

/-- The observers of a sound pool run without a fault. -/
theorem Sound.inspect? (h : p.Sound) (i : Nat) :
    p.inspect? i = some (p.stats? i) := by
  unfold Pool.inspect? stats?
  cases hslot : p.slots[i]? with
  | none => rfl
  | some s =>
      have hlength := (h.slots s (List.mem_of_getElem? hslot)).queue.length?
      simp [hlength]

end Pool

/-- A text that is not too long fits into its field. -/
theorem Message.fill?_eq (severity : UInt8) (text : String) :
    Message.fill? severity text = some (Message.statusText? severity text) := by
  unfold Message.fill? statusText?
  generalize text.toUTF8.toList = bytes
  dsimp only
  split
  · next hle => simp [fits?_eq hle, Bytes.fit, List.take_of_length_le hle]
  · rfl

/-! ## The downlink -/

namespace Downlink

variable {d : Downlink}

theorem publish?_eq (h : d.pool.Sound) (bytes : Bytes) :
    d.publish? bytes = some (d.publish bytes) := by
  have hpublish := h.publish? bytes
  simp [publish?, hpublish, publish]

/-- A message fits into the payload that is prepared for it, and its frame goes
to every slot. -/
theorem send?_eq (h : d.pool.Sound) (component : UInt8) (m : Message) :
    d.send? component m = some (d.send component m) := by
  have hpublish := h.publish? (d.publisher.frame component m).encode
  simp [send?, hpublish, send, Publisher.send]

/-- A text that is too long never gets to the pool, and any other is sent as a
message. -/
theorem sendStatusText?_eq (h : d.pool.Sound) (severity : UInt8)
    (text : String) :
    d.sendStatusText? severity text =
      some (d.sendStatusText severity text) := by
  unfold sendStatusText? sendStatusText Publisher.sendStatusText
  rw [Message.fill?_eq]
  cases Message.statusText? severity text with
  | none => rfl
  | some m => exact send?_eq h _ m

/-- **Every request** to a sound pool keeps within bounds. -/
theorem perform?_eq (h : d.pool.Sound) (op : Op) :
    d.perform? op = some (d.perform op) := by
  cases op with
  | claim =>
      have hclaim := h.claim?
      simp [perform?, hclaim, perform]
  | release i =>
      have hfree := h.free? i none
      simp [perform?, hfree, perform, Pool.release]
  | releaseClaim c =>
      have hfree := h.free? c.index (some c.generation)
      simp [perform?, hfree, perform, Pool.releaseClaim]
  | drain i n =>
      have hdrain := h.drain? i n
      simp [perform?, hdrain, perform]
  | publish bytes =>
      have hpublish := publish?_eq h bytes
      simp [perform?, hpublish, perform]
  | sendFrame frame =>
      have hpublish := publish?_eq h frame.encode
      simp [perform?, hpublish, perform]
  | send component m =>
      have hsend := send?_eq h component m
      simp [perform?, hsend, perform]
  | sendHeartbeat component hb =>
      have hsend := send?_eq h component hb.toMessage
      simp [perform?, hsend, perform]
  | sendStatusText severity text =>
      have hsend := sendStatusText?_eq h severity text
      simp [perform?, hsend, perform]
  | setOwner => rfl
  | setActive => rfl
  | setClaimActive => rfl

end Downlink

namespace Beacon

variable {d : Downlink}

/-- A message leaves the pool sound: it is one publication. -/
theorem sound_send (h : d.pool.Sound) (component : UInt8) (m : Message) :
    (d.send component m).1.pool.Sound :=
  Downlink.sound_perform h (.send component m)

/-- The checks of one round pass: it sends two messages and draws a pulse. -/
theorem round?_eq (h : d.pool.Sound) (b : Beacon) :
    b.round? d = some (b.round d) := by
  have hsound := sound_send h Message.autopilotComponent b.heartbeat.toMessage
  have hsend :=
    Downlink.send?_eq h Message.autopilotComponent b.heartbeat.toMessage
  have hsend' := Downlink.send?_eq hsound Message.cameraComponent
      Heartbeat.ofCamera.toMessage
  unfold round? round
  cases b.camera <;> simp [hsend, hsend']

/-- A round leaves the pool sound, so that the next one passes as well. -/
theorem sound_round (h : d.pool.Sound) (b : Beacon) :
    (b.round d).1.pool.Sound := by
  have hsound := sound_send h Message.autopilotComponent b.heartbeat.toMessage
  have hsound' :=
    sound_send hsound Message.cameraComponent Heartbeat.ofCamera.toMessage
  unfold round
  cases b.camera with
  | false => exact hsound
  | true => exact hsound'

end Beacon

end GroundLink
