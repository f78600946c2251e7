import GroundLink.Station.Clock

/-!
# Running a station

Everything that can happen to a station from outside, as one type of commands,
and what each is answered.  No command takes time but `advance`.
-/

namespace GroundLink

namespace Station

/-- What can happen to a station. -/
inductive Command
  /-- A request to the downlink. -/
  | downlink (op : Downlink.Op)
  /-- A line is connected at the front desk and started. -/
  | spawn (name : String) (policy : Policy) (transport : Transport)
  /-- A line is connected at the side desk. -/
  | connect (name : String) (policy : Policy) (transport : Transport)
  | start (line : Nat)
  /-- A line is given up, running or not. -/
  | drop (line : Nat)
  /-- The far end of a line sends. -/
  | send (line : Nat) (bytes : Bytes)
  /-- The far end of a line goes away. -/
  | close (line : Nat)
  | failWrites (line : Nat) (fail : Bool)
  | limitWrites (line : Nat) (limit : Option Nat)
  | takeWritten (line : Nat)
  | failReads (line : Nat) (fault : Option Fault)
  | advance (duration : Nat)
  | checkFailsafe (armed : Bool)
  | startBeacon (config : TelemetryConfig)
  | setHeartbeat (heartbeat : Heartbeat)
  | stopBeacon
  /-- Starts what the configuration names, given what stands behind the name
  of the serial device. -/
  | startRun (device : Serial.Device)
  | stopRun

/-- What is answered. -/
inductive Reply
  | done
  | downlink (reply : Downlink.Reply)
  | started (line : Nat)
  | connected (line : Nat)
  | refused (error : Error)
  | sent (taken : Bool)
  | written (bytes : Bytes)
  | action (action : FailsafeAction)
  | running
  | finished

variable (s : Station)

/-- Opens the serial line that the configuration names, if it names one. -/
def startSerial (device : Serial.Device) : Station × Except Error Unit :=
  match s.config.serial with
  | none => (s, .ok ())
  | some config =>
      match Serial.openLine device config with
      | .error error => (s, .error error)
      | .ok () =>
          match s.spawn .front s!"serial {config.device}" .serial
            { transport := .serial } with
          | (s, .error error) => (s, .error error)
          | (s, .ok k) =>
              ({ s with run := { s.run with lines := k :: s.run.lines } },
                .ok ())

/-- Starts the beacon that the configuration asks for, if it does. -/
def startTelemetry : Station :=
  match s.config.telemetry with
  | none => s
  | some config =>
      let (s, i) := s.startBeacon config
      { s with run := { s.run with beacons := i :: s.run.beacons } }

/-- Stops what a run has started; other lines and beacons go on. -/
def stopRun : Station :=
  let s' := s.run.lines.foldl Station.drop s
  let s' := s.run.beacons.foldl Station.stopBeacon s'
  { s' with run := {} }

/-- The answer to a line that wants to be started. -/
def startReply : Except Error Nat → Reply
  | .ok k => .started k
  | .error error => .refused error

/-- The answer to a line that wants to be connected. -/
def connectReply : Except Error Nat → Reply
  | .ok k => .connected k
  | .error error => .refused error

/-- Carries a command out. -/
def execute : Command → Station × Reply
  | .downlink op =>
      let (downlink, reply) := s.downlink.perform op
      ({ s with downlink }, .downlink reply)
  | .spawn name policy transport =>
      let (s, answer) := s.spawn .front name policy { transport }
      (s, startReply answer)
  | .connect name policy transport =>
      let (s, answer) := s.connect .side name policy { transport }
      (s, connectReply answer)
  | .start k => (s.start k, .done)
  | .drop k => (s.drop k, .done)
  | .send k bytes =>
      let (s, taken) := s.onPipe k false (·.send bytes)
      (s, .sent taken)
  | .close k => ((s.onPipe k () fun p => (p.dropPeer, ())).1, .done)
  | .failWrites k fail =>
      ((s.onPipe k () fun p => ({ p with failWrites := fail }, ())).1, .done)
  | .limitWrites k limit =>
      ((s.onPipe k () fun p => ({ p with writeLimit := limit }, ())).1, .done)
  | .takeWritten k =>
      let (s, bytes) := s.onPipe k [] Pipe.takeWritten
      (s, .written bytes)
  | .failReads k fault =>
      ({ s with lines := s.lines.modify k fun line =>
          { line with port := { line.port with readFault := fault } } }, .done)
  | .advance duration => (s.advance duration, .done)
  | .checkFailsafe armed =>
      let (failsafe, action) := s.failsafe.check s.active armed
      ({ s with failsafe }, .action action)
  | .startBeacon config =>
      let (s, i) := s.startBeacon config
      ({ s with requested := some i }, .done)
  | .setHeartbeat heartbeat =>
      (match s.requested with
        | some i => s.setBeacon i heartbeat
        | none => s, .done)
  | .stopBeacon =>
      (match s.requested with
        | some i => { s.stopBeacon i with requested := none }
        | none => s, .done)
  | .startRun device =>
      match s.startSerial device with
      | (s, .error error) => (s.stopRun, .refused error)
      | (s, .ok ()) => (s.startTelemetry, .running)
  | .stopRun => (s.stopRun, .finished)

end Station

end GroundLink
