import GroundLink.Link.Traffic
import GroundLink.Proofs.Link.Carry

/-!
# A record of all writes

What a link has written cannot be read off its endpoint, which may do with the
bytes what it likes.  `Recorded` puts a record beside any endpoint: what each
write offered, and what was answered.

The record changes nothing: any number of links with recorded endpoints do what
they do with the endpoints alone, in any order of acts (`bare_run`).  What is
proved about recorded traffic is proved about traffic.
-/

namespace GroundLink

/-- An endpoint with the record of all writes, the oldest first. -/
structure Recorded (ε : Type) where
  port : ε
  writes : List (Bytes × Except Fault Nat) := []

variable {ε : Type}

instance [Endpoint ε] : Endpoint (Recorded ε) where
  transport e := Endpoint.transport e.port
  read e n :=
    ({ e with port := (Endpoint.read e.port n).1 }, (Endpoint.read e.port n).2)
  write e bytes :=
    ({ port := (Endpoint.write e.port bytes).1
       writes := e.writes ++ [(bytes, (Endpoint.write e.port bytes).2)] },
      (Endpoint.write e.port bytes).2)

/-- The same act for recorded endpoints, with an empty record for a new one. -/
def Act.recorded : Act ε → Act (Recorded ε)
  | .connect name policy config now endpoint =>
      .connect name policy config now { port := endpoint }
  | .resume k cue => .resume k cue
  | .drop k => .drop k
  | .far k f => .far k fun e => { e with port := f e.port }
  | .ask op => .ask op

variable [Endpoint ε]

/-- A record answers what the endpoint answers. -/
theorem keeps_port : Endpoint.Keeps (Recorded.port (ε := ε)) :=
  ⟨fun _ _ => rfl, fun _ _ => rfl⟩

omit [Endpoint ε] in
/-- An act of a recorded traffic is the same act without the record. -/
theorem Act.carries_recorded (a : Act ε) :
    a.recorded.Carries Recorded.port a := by
  cases a with
  | connect name policy config now endpoint =>
      exact .connect name policy config now (⟨endpoint, []⟩ : Recorded ε)
  | resume k cue => exact .resume k cue
  | drop k => exact .drop k
  | far k f => exact .far k fun _ => rfl
  | ask op => exact .ask op

/-- The link without the record. -/
def Course.bare (c : Course (Recorded ε)) : Course ε :=
  ⟨c.link, c.config, c.endpoint.port, c.events, c.stand⟩

namespace Traffic

/-- Traffic without the records. -/
def bare (w : Traffic (Recorded ε)) : Traffic ε :=
  ⟨w.downlink, w.active, w.courses.map Course.bare⟩

variable {w : Traffic (Recorded ε)}

/-- **The same happens** with and without the records. -/
theorem bare_run (acts : List (Act ε)) :
    (w.run (acts.map Act.recorded)).bare = w.bare.run acts := by
  refine carry_run keeps_port (fun _ => rfl) ?_
  rw [List.forall₂_map_left_iff]
  exact List.forall₂_same.mpr fun a _ => a.carries_recorded

end Traffic

end GroundLink
