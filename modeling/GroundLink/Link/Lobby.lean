import GroundLink.Error
import GroundLink.Link.Traffic

/-!
# Where links come in

Links are asked for at a desk.  It lets in as many as there are channels for,
and counts those that it lets in and those that it refuses.  A `Lobby` is one
such desk with the traffic behind it; a link may also be connected past the
desk, and is not counted then.
-/

namespace GroundLink

/-- Whether the link has neither ended nor been dropped. -/
def Link.isLive (l : Link) : Bool := l.state != .terminated

/-- Whether the request takes a channel or gives one back. -/
def Downlink.Op.isTransfer : Op → Bool
  | .claim | .release _ | .releaseClaim _ => true
  | _ => false

/-- Traffic, and what its desk has counted. -/
structure Lobby (ε : Type) where
  traffic : Traffic ε
  started : Nat := 0
  refused : Nat := 0

/-- What can happen: somebody asks for a link at the desk, or something happens
in the traffic. -/
inductive Visit (ε : Type)
  | spawn (name : String) (policy : Policy) (config : LinkConfig) (now : Nat)
      (endpoint : ε)
  | act (a : Act ε)

/-- Whether channels are taken or given back by somebody who is no link. -/
def Act.isTransfer {ε : Type} : Act ε → Bool
  | .ask op => op.isTransfer
  | _ => false

namespace Visit

variable {ε : Type}

def isSpawn : Visit ε → Bool
  | spawn .. => true
  | act _ => false

/-- What happens in the traffic. -/
def toAct : Visit ε → Act ε
  | spawn name policy config now endpoint =>
      .connect name policy config now endpoint
  | act a => a

def isTransfer (v : Visit ε) : Bool := v.toAct.isTransfer

end Visit

/-- How many links have been connected and have not ended. -/
def Traffic.live {ε : Type} (w : Traffic ε) : Nat :=
  w.courses.countP (·.link.isLive)

namespace Lobby

variable {ε : Type}

/-- Nobody has come yet. -/
def start (d : Downlink) : Lobby ε := { traffic := .start d }

variable [Endpoint ε] (l : Lobby ε)

/-- Lets a link in on the lowest free channel, or refuses it.  The answer is the
number of the link. -/
def spawn (name : String) (policy : Policy) (config : LinkConfig) (now : Nat)
    (endpoint : ε) :
    Lobby ε × Except Error Nat :=
  match l.traffic.downlink.pool.claim.2 with
  | none =>
      ({ l with refused := l.refused + 1 },
        .error (.poolExhausted l.traffic.downlink.pool.capacity))
  | some _ =>
      ({ l with
         traffic := l.traffic.connect name policy config now endpoint
         started := l.started + 1 },
        .ok l.traffic.courses.length)

/-- Lets one thing happen. -/
def visit : Visit ε → Lobby ε
  | .spawn name policy config now endpoint =>
      (l.spawn name policy config now endpoint).1
  | .act a => { l with traffic := l.traffic.act a }

/-- Lets things happen one after the other. -/
def run (visits : List (Visit ε)) : Lobby ε :=
  visits.foldl (fun l v => l.visit v) l

@[simp] theorem run_nil : l.run [] = l := rfl

@[simp] theorem run_cons (v : Visit ε) (visits : List (Visit ε)) :
    l.run (v :: visits) = (l.visit v).run visits := rfl

theorem run_append (as bs : List (Visit ε)) :
    l.run (as ++ bs) = (l.run as).run bs :=
  List.foldl_append

/-- Whether a link is let in or not, the traffic goes on as it does without a
desk. -/
theorem traffic_visit (v : Visit ε) :
    (l.visit v).traffic = l.traffic.act v.toAct := by
  cases v with
  | spawn name policy config now endpoint =>
      simp only [visit, spawn, Visit.toAct, Traffic.act]
      cases hclaim : l.traffic.downlink.pool.claim with
      | mk pool granted =>
          cases granted with
          | none => simp only [Traffic.connect, hclaim]
          | some claim => rfl
  | act a => rfl

theorem traffic_run (visits : List (Visit ε)) :
    (l.run visits).traffic = l.traffic.run (visits.map Visit.toAct) := by
  induction visits generalizing l with
  | nil => rfl
  | cons v visits ih =>
      rw [run_cons, ih, traffic_visit]
      rfl

/-- Acts in the traffic are nothing to the desk. -/
theorem run_acts (acts : List (Act ε)) :
    l.run (acts.map .act) = { l with traffic := l.traffic.run acts } := by
  induction acts generalizing l with
  | nil => rfl
  | cons a acts ih => exact ih (l.visit (.act a))

/-- A call at the desk is counted once, whatever the answer. -/
theorem calls_visit (v : Visit ε) :
    (l.visit v).started + (l.visit v).refused = l.started + l.refused +
      v.isSpawn.toNat := by
  cases v with
  | spawn name policy config now endpoint =>
      simp only [visit, spawn]
      cases l.traffic.downlink.pool.claim.2 with
      | none => rfl
      | some claim => simp [Visit.isSpawn]; omega
  | act a => rfl

/-- **Calls** are counted once each. -/
theorem calls_run (visits : List (Visit ε)) :
    (l.run visits).started + (l.run visits).refused =
      l.started + l.refused + visits.countP Visit.isSpawn := by
  induction visits generalizing l with
  | nil => rfl
  | cons v visits ih =>
      have hvisit := l.calls_visit v
      rw [run_cons, ih, hvisit, List.countP_cons]
      cases v.isSpawn <;> simp; omega

end Lobby

end GroundLink
