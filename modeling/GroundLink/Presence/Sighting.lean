import GroundLink.Presence.Tracker
import Mathlib.Data.List.Chain

/-!
# What a tracker has been told

A tracker is told of heartbeats and asked to look at the clock, each at some
time; the times may come in any order.  `Tracker.seeAll` is what becomes of it
and `Tracker.answers` what it answers.

What it should answer is a matter of what it has been told before, and of
nothing that it keeps: when the latest heartbeat was (`Sighting.latest`),
whether every look since then was in time (`Sighting.Present`), and so what the
next thing brings about (`Sighting.Calls`).
-/

namespace GroundLink

/-- One thing that a tracker is told: a heartbeat, or a look at the clock. -/
inductive Sighting
  | heartbeat (now : Nat)
  | poll (now : Nat)
deriving Repr, DecidableEq

namespace Sighting

/-- The time of a heartbeat. -/
def beat? : Sighting → Option Nat
  | heartbeat now => some now
  | poll _ => none

/-- The time from which the deadline counts: that of the latest heartbeat, or
the start. -/
def latest (start : Nat) (seen : List Sighting) : Nat :=
  (seen.filterMap beat?).getLastD start

/-- **The other side is there** if there was a heartbeat and every look since
the latest one was at its deadline or before. -/
def Present (timeout : Nat) (seen : List Sighting) : Prop :=
  ∃ before beat after, seen = before ++ heartbeat beat :: after ∧
    ∀ s ∈ after, ∃ now, s = poll now ∧ now ≤ beat + timeout

/-- **What the next thing brings about**, after all that was seen. -/
inductive Calls (timeout start : Nat) (seen : List Sighting) :
    Sighting → Transition → Prop
  | came {now : Nat} (absent : ¬Present timeout seen) :
      Calls timeout start seen (heartbeat now) .activated
  | stayed {now : Nat} (present : Present timeout seen) :
      Calls timeout start seen (heartbeat now) .unchanged
  | inTime {now : Nat} (early : now ≤ latest start seen + timeout) :
      Calls timeout start seen (poll now) .unchanged
  | gone {now : Nat} (late : latest start seen + timeout < now)
      (present : Present timeout seen) :
      Calls timeout start seen (poll now) .deactivated
  | missing {now : Nat} (late : latest start seen + timeout < now)
      (absent : ¬Present timeout seen) :
      Calls timeout start seen (poll now) .expired

end Sighting

/-- What has been said by turns goes on by turns with the opposite of what was
said last. -/
theorem isChain_concat_not {said : List Bool} {there : Bool}
    (h : said.IsChain (· ≠ ·)) (hlast : said.getLast? = some there) :
    (said ++ [!there]).IsChain (· ≠ ·) := by
  refine h.append (.singleton _) ?_
  intro last hmem next hnext
  obtain rfl := Option.some.inj (hlast.symm.trans hmem)
  obtain rfl := Option.some.inj hnext
  cases there <;> exact nofun

/-- Whether the other side is there from now on, if that has changed. -/
def Transition.presence? : Transition → Option Bool
  | activated => some true
  | deactivated => some false
  | _ => none

namespace Tracker

variable (t : Tracker)

/-- Tells the tracker one thing. -/
def see : Sighting → Tracker × Transition
  | .heartbeat now => t.heartbeat now
  | .poll now => t.poll now

/-- The tracker after it has been told one thing after the other. -/
def seeAll (seen : List Sighting) : Tracker :=
  seen.foldl (fun t s => (t.see s).1) t

/-- What it has answered, the first answer first. -/
def answers (t : Tracker) : List Sighting → List Transition
  | [] => []
  | s :: seen => (t.see s).2 :: answers (t.see s).1 seen

@[simp] theorem seeAll_nil : t.seeAll [] = t := rfl

@[simp] theorem seeAll_cons (s : Sighting) (seen : List Sighting) :
    t.seeAll (s :: seen) = (t.see s).1.seeAll seen := rfl

theorem seeAll_concat (seen : List Sighting) (s : Sighting) :
    t.seeAll (seen ++ [s]) = ((t.seeAll seen).see s).1 := by
  simp [seeAll]

@[simp] theorem length_answers (seen : List Sighting) :
    (t.answers seen).length = seen.length := by
  induction seen generalizing t with
  | nil => rfl
  | cons s seen ih => simp [answers, ih]

/-- The answers to what comes first do not depend on what comes later. -/
theorem answers_append (seen later : List Sighting) :
    t.answers (seen ++ later) =
      t.answers seen ++ (t.seeAll seen).answers later := by
  induction seen generalizing t with
  | nil => rfl
  | cons s seen ih => simp [answers, ih]

theorem answers_concat (seen : List Sighting) (s : Sighting) :
    t.answers (seen ++ [s]) =
      t.answers seen ++ [((t.seeAll seen).see s).2] := by
  rw [answers_append]
  rfl

/-- The answer to one thing is given by the tracker as all before has left
it. -/
theorem getElem?_answers (before : List Sighting) (s : Sighting)
    (after : List Sighting) :
    (t.answers (before ++ s :: after))[before.length]? =
      some ((t.seeAll before).see s).2 := by
  have hlength : (t.answers before).length ≤ before.length :=
    Nat.le_of_eq (t.length_answers before)
  rw [answers_append, List.getElem?_append_right hlength, length_answers,
    Nat.sub_self]
  rfl

end Tracker

end GroundLink
