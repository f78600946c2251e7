import GroundLink.Channel.Beacon

/-!
# All that is sent over one downlink

One publisher stands behind everybody who sends: whoever asks the downlink to
send a message, and any number of beacons.  `Broadcast` is a downlink with its
beacons, and `Broadcast.Step` is one thing that happens to them.

What is sent is written down twice.  `Broadcast.mail` lists the letters, each a
message in the name of a component, as the senders mean them;
`Broadcast.drained` is what comes out at the other end of one channel.
-/

namespace GroundLink

/-- A message in the name of a component. -/
structure Letter where
  component : UInt8
  message : Message
deriving Repr, DecidableEq

namespace Letter

/-- The frame in which a letter goes out as number `k` of its sender. -/
def frame (system : UInt8) (k : Nat) (l : Letter) : Frame :=
  ⟨.v2, ⟨system, l.component, UInt8.ofNat k⟩, l.message⟩

/-- The frames in which letters go out, from number `k` on. -/
def frames (system : UInt8) (k : Nat) : List Letter → List Frame
  | [] => []
  | l :: rest => l.frame system k :: frames system (k + 1) rest

end Letter

namespace Downlink.Op

/-- The letters that a request sends; a status text goes in the publisher's own
name. -/
def letters (own : UInt8) : Op → List Letter
  | .send component m => [⟨component, m⟩]
  | .sendHeartbeat component hb => [⟨component, hb.toMessage⟩]
  | .sendStatusText severity text =>
      ((Message.statusText? severity text).map fun m => ⟨own, m⟩).toList
  | _ => []

/-- Whether a request puts bytes on the channels that are no letter of the
publisher. -/
def isRaw : Op → Bool
  | .publish _ => true
  | .sendFrame _ => true
  | _ => false

end Downlink.Op

/-- The letters of one round. -/
def Beacon.letters (b : Beacon) : List Letter :=
  ⟨Message.autopilotComponent, b.heartbeat.toMessage⟩ ::
    if b.camera then [⟨Message.cameraComponent, Heartbeat.ofCamera.toMessage⟩]
      else []

/-- A downlink and the beacons that send over it. -/
structure Broadcast where
  downlink : Downlink
  beacons : List Beacon := []

namespace Broadcast

/-- What can happen. -/
inductive Step
  | ask (op : Downlink.Op)
  /-- One beacon more is set up. -/
  | add (camera : Bool)
  /-- Beacon `k` is given another heartbeat to send. -/
  | advertise (k : Nat) (heartbeat : Heartbeat)
  /-- Beacon `k` sends a round. -/
  | round (k : Nat)
deriving Repr, DecidableEq

namespace Step

def isRaw : Step → Bool
  | ask op => op.isRaw
  | _ => false

end Step

variable (b : Broadcast)

/-- Lets one thing happen. -/
def step : Step → Broadcast × Downlink.Reply
  | .ask op =>
      let (downlink, reply) := b.downlink.perform op
      ({ b with downlink }, reply)
  | .add camera => ({ b with beacons := b.beacons ++ [{ camera }] }, .done)
  | .advertise k heartbeat =>
      ({ b with beacons := b.beacons.modify k ({ · with heartbeat }) }, .done)
  | .round k =>
      match b.beacons[k]? with
      | none => (b, .done)
      | some beacon =>
          let (downlink, reached) := beacon.round b.downlink
          ({ b with downlink }, .reached reached)

/-- Lets things happen one after the other. -/
def run (steps : List Step) : Broadcast :=
  steps.foldl (fun b s => (b.step s).1) b

/-- The letters of one step. -/
def letters : Step → List Letter
  | .ask op => op.letters b.downlink.publisher.component
  | .round k => (b.beacons[k]?.map Beacon.letters).getD []
  | _ => []

/-- The letters of many steps, in the order in which they are sent. -/
def mail (b : Broadcast) : List Step → List Letter
  | [] => []
  | s :: steps => b.letters s ++ mail (b.step s).1 steps

/-- The bytes that one step hands out of channel `i`. -/
def handedOut (i : Nat) (s : Step) : Bytes :=
  match s, (b.step s).2 with
  | .ask (.drain j _), .drained bs => if j = i then bs else []
  | _, _ => []

/-- The bytes that many steps hand out of channel `i`, in their order. -/
def drained (b : Broadcast) (i : Nat) : List Step → Bytes
  | [] => []
  | s :: steps => b.handedOut i s ++ drained (b.step s).1 i steps

/-- Whether channel `i` is active, now and after every step. -/
def staysActive (b : Broadcast) (i : Nat) : List Step → Bool
  | [] => b.downlink.pool.isActive i
  | s :: steps => b.downlink.pool.isActive i && staysActive (b.step s).1 i steps

@[simp] theorem run_nil : b.run [] = b := rfl

@[simp] theorem run_cons (s : Step) (steps : List Step) :
    b.run (s :: steps) = (b.step s).1.run steps := rfl

end Broadcast

end GroundLink
