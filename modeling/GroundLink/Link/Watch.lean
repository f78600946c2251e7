import GroundLink.Link.Traffic

/-!
# Failsafes over traffic

Any number of failsafes may look at the count that the links of a `Traffic`
share, each with a memory of its own and each whenever it likes: `Watch` is the
traffic with its failsafes, and `Watch.step` lets one thing happen to either.
The count is all that a failsafe sees.  A `Look` records what it could not see
as well, whether there was an active link in that moment.
-/

namespace GroundLink

/-- Whether a link is active. -/
def Traffic.isLinked {ε : Type} (w : Traffic ε) : Bool :=
  w.courses.any Course.isActive

/-- One look of a failsafe at the count, for a vehicle that was armed or not. -/
structure Look where
  failsafe : Nat
  armed : Bool
  /-- Whether a link was active in that moment. -/
  linked : Bool
  action : FailsafeAction
deriving Repr, DecidableEq

/-- Traffic with the failsafes on its count. -/
structure Watch (ε : Type) where
  traffic : Traffic ε
  failsafes : List Failsafe := []

namespace Watch

variable {ε : Type}

/-- What can happen to the traffic or to its failsafes. -/
inductive Deed (ε : Type)
  | act (a : Act ε)
  /-- One failsafe more is put on the count. -/
  | install
  /-- Failsafe `k` looks at the count. -/
  | check (k : Nat) (armed : Bool)

namespace Deed

/-- What happens to the traffic, if it is that. -/
def act? : Deed ε → Option (Act ε)
  | act a => some a
  | _ => none

def isInstall : Deed ε → Bool
  | install => true
  | _ => false

/-- Whether this is anything but the look of a failsafe other than `k`. -/
def concerns (k : Nat) : Deed ε → Bool
  | check j _ => j == k
  | _ => true

end Deed

/-- No failsafe has been installed and nothing has happened. -/
def start (d : Downlink) : Watch ε := { traffic := .start d }

variable [Endpoint ε] (w : Watch ε)

/-- Lets one thing happen; if it is a look, that is recorded. -/
def step : Deed ε → Watch ε × Option Look
  | .act a => ({ w with traffic := w.traffic.act a }, none)
  | .install => ({ w with failsafes := w.failsafes ++ [{}] }, none)
  | .check k armed =>
      match w.failsafes[k]? with
      | none => (w, none)
      | some f =>
          let (f, action) := f.check w.traffic.active armed
          ({ w with failsafes := w.failsafes.set k f },
            some ⟨k, armed, w.traffic.isLinked, action⟩)

/-- Lets things happen one after the other. -/
def run (deeds : List (Deed ε)) : Watch ε :=
  deeds.foldl (fun w x => (w.step x).1) w

/-- The looks of all failsafes while things happen, the first first. -/
def looks (w : Watch ε) : List (Deed ε) → List Look
  | [] => []
  | x :: deeds => (w.step x).2.toList ++ looks (w.step x).1 deeds

@[simp] theorem run_nil : w.run [] = w := rfl

@[simp] theorem run_cons (x : Deed ε) (deeds : List (Deed ε)) :
    w.run (x :: deeds) = (w.step x).1.run deeds := rfl

@[simp] theorem looks_nil : w.looks [] = [] := rfl

@[simp] theorem looks_cons (x : Deed ε) (deeds : List (Deed ε)) :
    w.looks (x :: deeds) = (w.step x).2.toList ++ (w.step x).1.looks deeds :=
  rfl

/-- A look at the count changes the failsafe that looks, and is recorded. -/
theorem step_check {w : Watch ε} {k : Nat} {f : Failsafe}
    (hf : w.failsafes[k]? = some f) (armed : Bool) :
    w.step (.check k armed) =
      ({ w with
         failsafes := w.failsafes.set k (f.check w.traffic.active armed).1 },
        some ⟨k, armed, w.traffic.isLinked,
          (f.check w.traffic.active armed).2⟩) := by
  simp only [step, hf]

theorem step_check_of_none {w : Watch ε} {k : Nat} (hk : w.failsafes[k]? = none)
    (armed : Bool) :
    w.step (.check k armed) = (w, none) := by
  simp only [step, hk]

end Watch

end GroundLink
