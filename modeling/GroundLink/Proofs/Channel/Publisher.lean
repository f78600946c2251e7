import GroundLink.Channel.Broadcast

/-!
# The publisher counts letters

Whoever asks for it, what goes out in the publisher's numbers are letters, one
after the other (`Downlink.sendAll`, `Broadcast.downlink_step`).  They are all
that changes the publisher, and each of them moves its number by one
(`Broadcast.publisher_run`).
-/

namespace GroundLink

namespace Publisher

/-- The publisher, so many letters later. -/
def advance (p : Publisher) (n : Nat) : Publisher :=
  { p with next := p.next + UInt8.ofNat n }

@[simp] theorem advance_zero (p : Publisher) : p.advance 0 = p := by
  simp [advance]

/-- Letters that go out in two lots count as one lot. -/
theorem advance_advance (p : Publisher) (m n : Nat) :
    (p.advance m).advance n = p.advance (m + n) := by
  simp [advance, UInt8.ofNat_add, UInt8.add_assoc]

end Publisher

namespace Downlink

/-- **The publisher counts letters**, and nothing else changes it. -/
theorem publisher_perform (d : Downlink) (op : Op) :
    (d.perform op).1.publisher =
      d.publisher.advance (op.letters d.publisher.component).length := by
  cases op with
  | sendStatusText severity text =>
      cases hm : Message.statusText? severity text <;>
        simp [perform, sendStatusText, Publisher.sendStatusText,
          Publisher.send, Op.letters, hm, Publisher.advance]
  | _ =>
      simp [perform, publish, send, Publisher.send, Op.letters,
        Publisher.advance]

/-- Sends letters one after the other. -/
def sendAll (d : Downlink) (letters : List Letter) : Downlink :=
  letters.foldl (fun d l => (d.send l.component l.message).1) d

@[simp] theorem sendAll_nil (d : Downlink) : d.sendAll [] = d := rfl

@[simp] theorem sendAll_cons (d : Downlink) (l : Letter)
    (letters : List Letter) :
    d.sendAll (l :: letters) =
      (d.send l.component l.message).1.sendAll letters := rfl

/-- As many numbers are used up as letters are sent. -/
theorem publisher_sendAll (d : Downlink) (letters : List Letter) :
    (d.sendAll letters).publisher = d.publisher.advance letters.length := by
  induction letters generalizing d with
  | nil => simp
  | cons l letters ih =>
      have hone : (d.send l.component l.message).1.publisher =
          d.publisher.advance 1 := rfl
      rw [sendAll_cons, ih, hone, Publisher.advance_advance, List.length_cons,
        Nat.add_comm]

end Downlink

/-- A round sends the letters of the beacon. -/
theorem Beacon.round_eq (b : Beacon) (d : Downlink) :
    (b.round d).1 = d.sendAll b.letters := by
  unfold Beacon.round Beacon.letters
  cases b.camera <;> rfl

namespace Broadcast

/-- What a step makes of the downlink: it is a request, or it sends its letters
and hands nothing out. -/
theorem downlink_step (b : Broadcast) (s : Step) :
    (∃ op, s = .ask op ∧
        (b.step s).1.downlink = (b.downlink.perform op).1) ∨
      (∀ i, b.handedOut i s = []) ∧
        (b.step s).1.downlink = b.downlink.sendAll (b.letters s) := by
  cases s with
  | ask op => exact Or.inl ⟨op, rfl, rfl⟩
  | add camera => exact Or.inr ⟨fun _ => rfl, rfl⟩
  | advertise j heartbeat => exact Or.inr ⟨fun _ => rfl, rfl⟩
  | round j =>
      refine Or.inr ⟨fun _ => rfl, ?_⟩
      cases hj : b.beacons[j]? with
      | none => simp [step, letters, hj]
      | some beacon => simp [step, letters, hj, beacon.round_eq]

/-- **The publisher counts letters**, whoever sends them. -/
theorem publisher_step (b : Broadcast) (s : Step) :
    (b.step s).1.downlink.publisher =
      b.downlink.publisher.advance (b.letters s).length := by
  rcases b.downlink_step s with ⟨op, rfl, heq⟩ | ⟨_, heq⟩
  · rw [heq]
    exact b.downlink.publisher_perform op
  · rw [heq, Downlink.publisher_sendAll]

/-- So it has moved by as many numbers as letters went out. -/
theorem publisher_run (b : Broadcast) (steps : List Step) :
    (b.run steps).downlink.publisher =
      b.downlink.publisher.advance (b.mail steps).length := by
  induction steps generalizing b with
  | nil => exact (Publisher.advance_zero _).symm
  | cons s steps ih =>
      rw [run_cons, ih, publisher_step, Publisher.advance_advance, mail,
        List.length_append]

end Broadcast

end GroundLink
