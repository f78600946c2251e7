import GroundLink.Station.Basic

/-!
# The clock of a station

Time passes only when it is told to.  Then everything that falls due on the way
happens at its own moment, the earliest first; of what falls due together,
lines come before beacons, and lower numbers before higher ones.
-/

namespace GroundLink

namespace Station

/-- Something that is due: a poll or a round. -/
inductive Task
  | poll (line : Nat)
  | round (beacon : Nat)
deriving Repr, DecidableEq

variable (s : Station)

/-- When the next poll of a line is due. -/
def pollDue (line : Line) : Option Nat :=
  match line.stage with
  | .running next => some next
  | _ => none

/-- All that is planned, with its times. -/
def agenda : List (Nat × Task) :=
  (s.lines.zipIdx.filterMap fun (line, k) => (pollDue line).map (·, .poll k)) ++
    (s.beacons.zipIdx.filterMap fun (b, i) => b.next.map (·, .round i))

/-- The earliest of two; of equals the first. -/
def earlier (a b : Nat × Task) : Nat × Task := if b.1 < a.1 then b else a

/-- What is due first, if it is due by `horizon`. -/
def nextTask (horizon : Nat) : Option (Nat × Task) :=
  match s.agenda.filter (·.1 ≤ horizon) with
  | [] => none
  | first :: rest => some (rest.foldl earlier first)

/-- How often something that is due at `next`, and then every `interval`, comes
up by `horizon`. -/
def occasions (next interval horizon : Nat) : Nat :=
  if next ≤ horizon then (horizon - next) / interval + 1 else 0

/-- A bound on what can come up by `horizon`: lines may end on the way, but
none begins. -/
def workload (horizon : Nat) : Nat :=
  let polls := (s.lines.filterMap pollDue).map
      (occasions · s.config.link.pollInterval horizon)
  let rounds := s.beacons.map fun b =>
    (b.next.map (occasions · b.interval horizon)).getD 0
  (polls ++ rounds).foldl (· + ·) 0

/-- Does one task. -/
def perform : Task → Station
  | .poll k => s.poll k
  | .round i => s.beaconRound i

/-- Does what is due by `horizon`, at most `tasks` things, and sets the clock
there. -/
def advanceWithin (horizon : Nat) : (tasks : Nat) → Station → Station
  | 0, s => { s with clock := horizon }
  | tasks + 1, s =>
      match s.nextTask horizon with
      | none => { s with clock := horizon }
      | some (time, task) =>
          advanceWithin horizon tasks ({ s with clock := time }.perform task)

/-- Lets `duration` nanoseconds pass. -/
def advance (duration : Nat) : Station :=
  let horizon := s.clock + duration
  advanceWithin horizon (s.workload horizon) s

end Station

end GroundLink
