import GroundLink.Channel.Downlink

/-!
# The heartbeat beacon

A station tells the ground that it is there: in every round the heartbeat of
the autopilot, which can be replaced between rounds, and, if asked to, that of
a camera.
-/

namespace GroundLink

/-- What a beacon sends in a round. -/
structure Beacon where
  /-- Whether a camera is announced too. -/
  camera : Bool
  heartbeat : Heartbeat := .ofAutopilot 0
deriving Repr, DecidableEq

namespace Beacon

/-- One round.  The number is that of the channels that the autopilot's
heartbeat reached. -/
def round (b : Beacon) (d : Downlink) : Downlink × Nat :=
  let (d, reached) := d.send Message.autopilotComponent b.heartbeat.toMessage
  if b.camera then
    ((d.send Message.cameraComponent Heartbeat.ofCamera.toMessage).1, reached)
  else (d, reached)

end Beacon

end GroundLink
