import GroundLink.Channel.Beacon
import GroundLink.Link.Turn
import GroundLink.Port.Pipe
import GroundLink.Station.Config

/-!
# Stations

A station has one downlink, one count of active links, and a clock.  Links come
to it over lines, which are numbered in the order in which they were connected;
beacons send its heartbeats.  Lines are connected at one of two desks, each
with a handler and counters of its own, over the same channels and settings.

All that has happened is in the journal, the newest entry first.
-/

namespace GroundLink

/-- The two places where lines are connected. -/
inductive Desk
  | front
  | side
deriving Repr, DecidableEq

/-- What one desk has counted. -/
structure DeskCount where
  started : Nat := 0
  refused : Nat := 0
  /-- Frames that its handler has decided on. -/
  frames : Nat := 0
deriving Repr, DecidableEq

/-- How a line came to its end. -/
inductive Ending
  | exited (exit : Exit)
  | aborted
deriving Repr, DecidableEq

def Ending.message : Ending → String
  | .exited exit => exit.message
  | .aborted => "aborted"

/-- Where a line is in its life. -/
inductive Stage
  /-- Connected, and not run yet. -/
  | connected
  /-- Running; the next poll is due at that time. -/
  | running (next : Nat)
  | over
deriving Repr, DecidableEq

/-- A link with its endpoint and what else the station knows of it. -/
structure Line where
  link : Link
  port : Port
  desk : Desk
  stage : Stage := .connected
deriving Repr, DecidableEq

/-- A beacon that sends by itself. -/
structure BeaconRun where
  beacon : Beacon
  interval : Nat
  /-- When the next round is due; `none` once it has been stopped. -/
  next : Option Nat
deriving Repr, DecidableEq

/-- An entry of the journal. -/
inductive Entry
  /-- What a link did, under its name. -/
  | event (link : String) (time : Nat) (event : Event)
  /-- A running line came to its end. -/
  | ended (line : Nat) (ending : Ending)

/-- What a run of the station has started and will stop. -/
structure RunTasks where
  lines : List Nat := []
  beacons : List Nat := []
deriving Repr, DecidableEq

/-- A station under its clock.  Times are in nanoseconds. -/
structure Station where
  config : Config
  handler : Handler
  downlink : Downlink
  active : ActiveCount := {}
  clock : Nat := 0
  front : DeskCount := {}
  side : DeskCount := {}
  lines : List Line := []
  beacons : List BeaconRun := []
  /-- The beacon that was started last by request. -/
  requested : Option Nat := none
  run : RunTasks := {}
  failsafe : Failsafe := {}
  journal : List Entry := []

/-- The counters of a station. -/
structure StationStats where
  started : Nat
  refused : Nat
  active : Nat
  occupied : Nat
  channels : Nat
  dropped : Nat
deriving Repr, DecidableEq

namespace Station

/-- A station that has not begun anything; a bad configuration is refused. -/
def create (config : Config) (handler : Handler) : Except Error Station :=
  match h : config.fault? with
  | some fault => .error fault.error
  | none =>
      let pool := (Pool.create? config.channels config.queueCapacity).get
        (Pool.isSome_create? _ (Config.Valid.bounds h).2.1)
      let publisher :=
        { system := config.system, component := config.component }
      .ok { config, handler, downlink := { pool, publisher } }

variable (s : Station)

def pool : Pool := s.downlink.pool

/-- What links share. -/
def board : Board := ⟨s.downlink.pool, s.active⟩

def withBoard (b : Board) : Station :=
  { s with downlink := { s.downlink with pool := b.pool }, active := b.active }

def count : Desk → DeskCount
  | .front => s.front
  | .side => s.side

def countAt (desk : Desk) (f : DeskCount → DeskCount) : Station :=
  match desk with
  | .front => { s with front := f s.front }
  | .side => { s with side := f s.side }

def stats : StationStats where
  started := s.front.started
  refused := s.front.refused
  active := s.active.links
  occupied := s.pool.occupiedCount
  channels := s.pool.capacity
  dropped := s.pool.droppedBytes

/-! ## Lines -/

/-- Everything that line `line` can touch. -/
def turn (line : Line) : Turn Port := ⟨line.link, s.board, line.port, []⟩

/-- Takes back what a turn of line `k` has made of things. -/
def commit (k : Nat) (line : Line) (t : Turn Port) (stage : Stage) : Station :=
  let s := s.withBoard t.board
  let frames := t.events.countP Event.isFrame
  let s := s.countAt line.desk fun c => { c with frames := c.frames + frames }
  let entries := t.events.map (.event t.link.name s.clock)
  { s with
    lines :=
      s.lines.set k { line with link := t.link, port := t.endpoint, stage }
    journal := entries.reverse ++ s.journal }

/-- The endpoint goes away with its line. -/
def hangUp (t : Turn Port) : Turn Port :=
  { t with
    endpoint := { t.endpoint with pipe := t.endpoint.pipe.dropEndpoint } }

/-- What the handler of a desk says when a link ends. -/
def lastWords (desk : Desk) (t : Turn Port) : List Event :=
  if s.handler.reportsTotal then
    [.frameTotal ((s.count desk).frames + t.events.countP Event.isFrame)]
  else []

/-- One poll within a turn that is under way.  If the link ends, so does the
line. -/
def pollTurn (k : Nat) (line : Line) (t : Turn Port) : Station :=
  match t.tick s.config.link s.handler s.clock with
  | (t, none) =>
      s.commit k line t (.running (s.clock + s.config.link.pollInterval))
  | (t, some exit) =>
      let t := hangUp (t.finish exit s.clock (s.lastWords line.desk t))
      let s := s.commit k line t .over
      { s with journal := .ended k (.exited exit) :: s.journal }

/-- The poll of line `k` that is due. -/
def poll (k : Nat) : Station :=
  match s.lines[k]? with
  | none => s
  | some line => s.pollTurn k line (s.turn line)

/-- Starts line `k`: it begins and polls for the first time. -/
def start (k : Nat) : Station :=
  match s.lines[k]? with
  | none => s
  | some line =>
      if line.stage = .connected then s.pollTurn k line
        (s.turn line).begin else s

/-- Ends line `k` from outside: the link gives back what it has, and nothing
more. -/
def drop (k : Nat) : Station :=
  match s.lines[k]? with
  | none => s
  | some line =>
      match line.stage with
      | .over => s
      | .connected => s.commit k line (hangUp (s.turn line).release) .over
      | .running _ =>
          let s := s.commit k line (hangUp (s.turn line).release) .over
          { s with journal := .ended k .aborted :: s.journal }

/-- Connects a line at a desk: it gets the lowest free channel, or is
refused. -/
def connect (desk : Desk) (name : String) (policy : Policy) (port : Port) :
    Station × Except Error Nat :=
  match s.downlink.pool.claim with
  | (_, none) =>
      (s.countAt desk fun c => { c with refused := c.refused + 1 },
        .error (.poolExhausted s.pool.capacity))
  | (pool, some claim) =>
      let link :=
        Link.connect name claim port.transport policy s.config.link s.clock
      let s := s.countAt desk fun c => { c with started := c.started + 1 }
      ({ s with
         downlink := { s.downlink with pool }
         lines := s.lines ++ [{ link, port, desk }] },
        .ok s.lines.length)

/-- Connects a line at a desk and starts it. -/
def spawn (desk : Desk) (name : String) (policy : Policy) (port : Port) :
    Station × Except Error Nat :=
  match s.connect desk name policy port with
  | (s, .error error) => (s, .error error)
  | (s, .ok k) => (s.start k, .ok k)

/-- Changes the pipe of line `k`, from the far end. -/
def onPipe {α : Type} (k : Nat) (absent : α) (f : Pipe → Pipe × α) :
    Station × α :=
  match s.lines[k]? with
  | none => (s, absent)
  | some line =>
      let (pipe, answer) := f line.port.pipe
      ({ s with
         lines := s.lines.set k { line with port := { line.port with pipe } } },
        answer)

/-! ## Beacons -/

/-- The round of beacon `i` that is due. -/
def beaconRound (i : Nat) : Station :=
  match s.beacons[i]? with
  | none => s
  | some b =>
      { s with
        downlink := (b.beacon.round s.downlink).1
        beacons :=
          s.beacons.set i { b with next := some (s.clock + b.interval) } }

/-- Starts a beacon: it sends its first round at once.  One without an interval
never sends anything. -/
def startBeacon (config : TelemetryConfig) : Station × Nat :=
  let i := s.beacons.length
  let beacon : Beacon := { camera := config.camera }
  let b : BeaconRun := { beacon, interval := config.interval, next := none }
  let s := { s with beacons := s.beacons ++ [b] }
  (if config.interval = 0 then s else s.beaconRound i, i)

/-- Stops beacon `i`. -/
def stopBeacon (i : Nat) : Station :=
  { s with beacons := s.beacons.modify i ({ · with next := none }) }

/-- Replaces the heartbeat that beacon `i` sends. -/
def setBeacon (i : Nat) (heartbeat : Heartbeat) : Station :=
  { s with
    beacons := s.beacons.modify i fun b =>
      { b with beacon := { b.beacon with heartbeat } } }

end Station

end GroundLink
