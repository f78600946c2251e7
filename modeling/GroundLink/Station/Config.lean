import GroundLink.Address.Bind
import GroundLink.Channel.Pool
import GroundLink.Link.Policy
import GroundLink.Port.Serial

/-!
# The configuration of a station

Numbers of the station and of its channels, settings of its links, and the
ways in which the ground can reach it.  A configuration is good if it has a
channel, queues of two cells or more, and no interval or buffer of size zero;
`Config.fault?` names the first rule that one breaks.
-/

namespace GroundLink

/-- Where TCP connections are accepted. -/
structure TcpConfig where
  bind : SocketAddress := .v4 ⟨0, 0, 0, 0⟩ BindAddress.defaultPort
  nodelay : Bool := true
deriving Repr, DecidableEq

/-- Where datagrams come from and go to. -/
structure UdpConfig where
  bind : SocketAddress := .v4 ⟨0, 0, 0, 0⟩ 14551
  peer : SocketAddress := .v4 ⟨192, 168, 0, 10⟩ 14550
  /-- Whether to answer to whoever has sent last. -/
  followSender : Bool := true
deriving Repr, DecidableEq

/-- How often heartbeats are sent, and whether one of a camera too. -/
structure TelemetryConfig where
  interval : Nat := second
  camera : Bool := true
deriving Repr, DecidableEq

/-- The configuration of a station. -/
structure Config where
  channels : Nat := Pool.defaultChannels
  queueCapacity : Nat := Queue.defaultCapacity
  system : UInt8 := 1
  component : UInt8 := 1
  link : LinkConfig := {}
  tcp : Option TcpConfig := some {}
  udp : Option UdpConfig := none
  serial : Option SerialConfig := none
  telemetry : Option TelemetryConfig := some {}
deriving Repr, DecidableEq

/-- The rules that a configuration can break. -/
inductive ConfigFault
  | noChannel
  | queueTooSmall (capacity : Nat)
  | noPollInterval
  | noBuffer
  | noTelemetryInterval
deriving Repr, DecidableEq

def ConfigFault.message : ConfigFault → String
  | .noChannel => "channel count must be at least 1"
  | .queueTooSmall capacity =>
      s!"queue capacity {capacity} is below the minimum of 2"
  | .noPollInterval => "poll interval must be non-zero"
  | .noBuffer => "write chunk and read buffer must be non-zero"
  | .noTelemetryInterval => "telemetry interval must be non-zero"

/-- The error with which a configuration is refused. -/
def ConfigFault.error (fault : ConfigFault) : Error :=
  .invalidConfig fault.message

namespace Config

/-- The first rule that the configuration breaks. -/
def fault? (c : Config) : Option ConfigFault :=
  if c.channels = 0 then some .noChannel
  else if c.queueCapacity < 2 then some (.queueTooSmall c.queueCapacity)
  else if c.link.pollInterval = 0 then some .noPollInterval
  else if c.link.writeChunk = 0 ∨ c.link.readBuffer = 0 then some .noBuffer
  else if c.telemetry.any (·.interval == 0) then some .noTelemetryInterval
  else none

/-- The error that the configuration is refused with, if it is. -/
def error? (c : Config) : Option Error := c.fault?.map ConfigFault.error

/-- A configuration without fault. -/
def Valid (c : Config) : Prop := c.fault? = none

instance (c : Config) : Decidable c.Valid :=
  inferInstanceAs (Decidable (c.fault? = none))

theorem Valid.bounds {c : Config} (h : c.Valid) :
    0 < c.channels ∧ 2 ≤ c.queueCapacity ∧ 0 < c.link.pollInterval ∧
      0 < c.link.writeChunk ∧ 0 < c.link.readBuffer := by
  unfold Valid fault? at h
  repeat' split at h
  all_goals first | contradiction | omega

end Config

end GroundLink
