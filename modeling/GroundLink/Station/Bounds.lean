import GroundLink.Link.Bounds
import GroundLink.Link.Watch
import GroundLink.Station.Basic

/-!
# Stations with every step checked

`Site` is what a station runs over pipes: links with their peers, failsafes on
the count of links, and the telemetry that its configuration asks for.
`Site.step` lets one thing happen to it, in any order and as often as one likes,
and `Site.step?` does the same with every step checked.  `Station.create?`
creates a station the same way.
-/

namespace GroundLink

open Checked

/-- A station that has not begun anything.  A queue that is too small cannot be
built. -/
def Station.create? (config : Config) (handler : Handler) :
    Option (Except Error Station) :=
  match config.error? with
  | some error => some (.error error)
  | none => do
      let pool ← Pool.create? config.channels config.queueCapacity
      let publisher :=
        { system := config.system, component := config.component }
      some (.ok { config, handler, downlink := { pool, publisher } })

/-- What a station runs over pipes. -/
structure Site where
  watch : Watch Parcels
  beacons : List Beacon := []

/-- What can happen at a station. -/
inductive Errand
  /-- Something happens among the links. -/
  | deal (dealing : Dealing)
  /-- One failsafe more is put on the count. -/
  | install
  /-- Failsafe `k` looks at the count. -/
  | check (k : Nat) (armed : Bool)
  /-- Somebody asks for the counters of a channel. -/
  | inspect (channel : Nat)
  /-- The telemetry that the configuration asks for is started. -/
  | telemetry
  /-- Beacon `k` is given another heartbeat to send. -/
  | advertise (k : Nat) (heartbeat : Heartbeat)
  /-- Beacon `k` sends a round. -/
  | round (k : Nat)

namespace Site

/-- Nothing has happened yet. -/
def start (d : Downlink) : Site := { watch := .start d }

variable (config : Config) (s : Site)

def downlink : Downlink := s.watch.traffic.downlink

def withTraffic (traffic : Traffic Parcels) : Site :=
  { s with watch := { s.watch with traffic } }

def withDownlink (downlink : Downlink) : Site :=
  s.withTraffic { s.watch.traffic with downlink }

/-- Lets one thing happen. -/
def step : Errand → Site
  | .deal dealing =>
      s.withTraffic (s.watch.traffic.act (dealing.act config.link))
  | .install => { s with watch := (s.watch.step .install).1 }
  | .check k armed => { s with watch := (s.watch.step (.check k armed)).1 }
  | .inspect _ => s
  | .telemetry =>
      match config.telemetry with
      | none => s
      | some t => { s with beacons := s.beacons ++ [{ camera := t.camera }] }
  | .advertise k heartbeat =>
      { s with beacons := s.beacons.modify k ({ · with heartbeat }) }
  | .round k =>
      match s.beacons[k]? with
      | none => s
      | some b => s.withDownlink (b.round s.downlink).1

/-- Lets things happen one after the other. -/
def run (errands : List Errand) : Site :=
  errands.foldl (fun s e => s.step config e) s

/-! ## With every step checked -/

/-- Lets one thing happen.  Telemetry sets itself a period for its rounds. -/
def step? : Errand → Option Site
  | .deal dealing => do
      let traffic ← s.watch.traffic.act? (dealing.act config.link)
      some (s.withTraffic traffic)
  | .inspect channel => do
      let _ ← s.downlink.pool.inspect? channel
      some s
  | .telemetry =>
      match config.telemetry with
      | none => some s
      | some t => do
          let _ ← positive? t.interval
          some { s with beacons := s.beacons ++ [{ camera := t.camera }] }
  | .round k =>
      match s.beacons[k]? with
      | none => some s
      | some b => do
          let (downlink, _) ← b.round? s.downlink
          some (s.withDownlink downlink)
  -- these look at a failsafe or a beacon only if it is there
  | .install => some (s.step config .install)
  | .check k armed => some (s.step config (.check k armed))
  | .advertise k heartbeat => some (s.step config (.advertise k heartbeat))

/-- Lets things happen one after the other. -/
def run? (errands : List Errand) : Option Site :=
  errands.foldlM (fun s e => s.step? config e) s

@[simp] theorem run_nil : s.run config [] = s := rfl

@[simp] theorem run_cons (e : Errand) (errands : List Errand) :
    s.run config (e :: errands) = (s.step config e).run config errands := rfl

@[simp] theorem run?_nil : s.run? config [] = some s := rfl

@[simp] theorem run?_cons (e : Errand) (errands : List Errand) :
    s.run? config (e :: errands) = (s.step? config e).bind fun s =>
      s.run? config errands := rfl

end Site

end GroundLink
