/-!
# Is the other side still there?

A side is present from its first heartbeat on, until none has come for longer
than the timeout.  The tracker keeps the deadline and reports changes; a look
at the deadline itself is still in time.
-/

namespace GroundLink

/-- What a heartbeat or a look at the clock brought about. -/
inductive Transition
  | unchanged
  | activated
  | deactivated
  /-- The deadline has passed, and the side was not present anyway. -/
  | expired
deriving Repr, DecidableEq

/-- Presence of one side.  Times are counted from any origin, in any unit. -/
structure Tracker where
  timeout : Nat
  deadline : Nat
  active : Bool
deriving Repr, DecidableEq

namespace Tracker

/-- Nobody has been heard yet; the first deadline counts from the start. -/
def begin (timeout start : Nat) : Tracker := ⟨timeout, start + timeout, false⟩

variable (t : Tracker)

/-- A heartbeat moves the deadline. -/
def heartbeat (now : Nat) : Tracker × Transition :=
  ({ t with deadline := now + t.timeout, active := true },
    if t.active then .unchanged else .activated)

/-- A look at the clock. -/
def poll (now : Nat) : Tracker × Transition :=
  if now ≤ t.deadline then (t, .unchanged)
  else ({ t with active := false }, if t.active then .deactivated else .expired)

@[simp] theorem timeout_heartbeat (now : Nat) :
    (t.heartbeat now).1.timeout = t.timeout := rfl

@[simp] theorem deadline_heartbeat (now : Nat) :
    (t.heartbeat now).1.deadline = now + t.timeout := rfl

@[simp] theorem timeout_poll (now : Nat) :
    (t.poll now).1.timeout = t.timeout := by
  unfold poll; split <;> rfl

@[simp] theorem deadline_poll (now : Nat) :
    (t.poll now).1.deadline = t.deadline := by
  unfold poll; split <;> rfl

end Tracker

end GroundLink
