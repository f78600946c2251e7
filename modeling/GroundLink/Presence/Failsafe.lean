/-!
# The failsafe

Every link that becomes active raises one count, and lowers it when it ceases
to be.  A failsafe looks at the count from time to time: while the vehicle is
armed and nobody is there it asks for a disarm, once; seeing a link makes it
ready again.
-/

namespace GroundLink

/-- How many links are active. -/
structure ActiveCount where
  links : Nat := 0
deriving Repr, DecidableEq

namespace ActiveCount

/-- One more. -/
def raise (c : ActiveCount) : ActiveCount := ⟨c.links + 1⟩

/-- One fewer; it does not go below zero. -/
def lower (c : ActiveCount) : ActiveCount := ⟨c.links - 1⟩

@[simp] theorem lower_raise (c : ActiveCount) : c.raise.lower = c := rfl

end ActiveCount

/-- What the control loop should do. -/
inductive FailsafeAction
  | none
  | disarm
deriving Repr, DecidableEq

/-- A failsafe remembers whether it has asked since it last saw a link. -/
structure Failsafe where
  tripped : Bool := false
deriving Repr, DecidableEq

/-- One look at the count, for a vehicle that is armed or not. -/
def Failsafe.check (f : Failsafe) (active : ActiveCount) (armed : Bool) :
    Failsafe × FailsafeAction :=
  if 0 < active.links then ({ tripped := false }, .none)
  else if ! armed || f.tripped then (f, .none)
  else ({ tripped := true }, .disarm)

end GroundLink
