import GroundLink.Link.Traffic
import GroundLink.Port.Parcels

/-!
# Links whose far ends are peers

`Act` lets anything happen at the far end of a link.  A `Dealing` is an act
among links with peers, who do what peers can do, and with settings that all
links share.
-/

namespace GroundLink

/-- What can happen among links that all have peers. -/
inductive Dealing
  /-- A link is connected whose peer has done some things already. -/
  | connect (name : String) (policy : Policy) (now : Nat) (early : List Peer)
  | resume (k : Nat) (cue : Cue)
  | drop (k : Nat)
  | peer (k : Nat) (doing : Peer)
  | ask (op : Downlink.Op)

namespace Dealing

variable {ε : Type} [Peered ε] (config : LinkConfig)

/-- The act that this is, over one kind of endpoint. -/
def act : Dealing → Act ε
  | connect name policy now early =>
      .connect name policy config now (Peered.filled early)
  | resume k cue => .resume k cue
  | drop k => .drop k
  | peer k doing => .far k fun p => Peered.after p doing
  | ask op => .ask op

/-- What the peer of link `k` does. -/
def doing? (k : Nat) : Dealing → Option Peer
  | peer j doing => if j = k then some doing else none
  | _ => none

variable {k : Nat} {x : Dealing}

/-- What the peer of a link does is done at the far end of that link. -/
theorem act_of_doing {a : Peer} (h : x.doing? k = some a) :
    x.act (ε := ε) config = .far k fun p => Peered.after p a := by
  cases x with
  | peer j doing =>
      simp only [doing?, Option.ite_none_right_eq_some, Option.some.injEq] at h
      obtain ⟨rfl, rfl⟩ := h
      rfl
  | _ => cases h

/-- Nobody else does anything there. -/
theorem act_ne_far (h : x.doing? k = none) (f : ε → ε) :
    x.act config ≠ .far k f := by
  cases x with
  | peer j doing =>
      have hjk : j ≠ k := by simpa [doing?] using h
      intro hfar
      cases hfar
      exact hjk rfl
  | _ => nofun

end Dealing

end GroundLink
