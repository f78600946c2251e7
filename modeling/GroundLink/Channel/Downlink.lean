import GroundLink.Channel.Pool
import GroundLink.Wire.Frame

/-!
# The downlink

A publisher gives its messages a header with the next sequence number and
offers the frames to every active channel of the pool.  There is one sequence,
whoever sends; it wraps after 255.  `Downlink` is the pool with the publisher
in front of it, `Downlink.Op` what can be asked of the two, `Downlink.perform`
what comes of it, and `Downlink.run` what comes of many requests in order.
-/

namespace GroundLink

/-- The sender: its numbers, and the sequence number of its next frame. -/
structure Publisher where
  system : UInt8
  component : UInt8
  next : UInt8 := 0
deriving Repr, DecidableEq

namespace Publisher

variable (p : Publisher)

/-- The frame in which a message is sent now. -/
def frame (component : UInt8) (m : Message) : Frame :=
  ⟨.v2, ⟨p.system, component, p.next⟩, m⟩

/-- Sends a message in the name of a component. -/
def send (pool : Pool) (component : UInt8) (m : Message) :
    Publisher × Pool × Nat :=
  let (pool, reached) := pool.publish (p.frame component m).encode
  ({ p with next := p.next + 1 }, pool, reached)

/-- Sends a status text in its own name; one that is too long reaches nobody
and uses no sequence number. -/
def sendStatusText (pool : Pool) (severity : UInt8) (text : String) :
    Publisher × Pool × Nat :=
  match Message.statusText? severity text with
  | some m => p.send pool p.component m
  | none => (p, pool, 0)

end Publisher

/-- A pool of channels and who publishes to it. -/
structure Downlink where
  pool : Pool
  publisher : Publisher
deriving Repr, DecidableEq

namespace Downlink

/-- What can be asked of a downlink. -/
inductive Op
  | claim
  | release (index : Nat)
  | releaseClaim (claim : Claim)
  | setOwner (index : Nat) (name : String)
  | setActive (index : Nat) (active : Bool)
  | setClaimActive (claim : Claim) (active : Bool)
  | drain (index count : Nat)
  | publish (bytes : Bytes)
  | sendFrame (frame : Frame)
  | send (component : UInt8) (message : Message)
  | sendHeartbeat (component : UInt8) (heartbeat : Heartbeat)
  | sendStatusText (severity : UInt8) (text : String)
deriving Repr, DecidableEq

/-- What is answered. -/
inductive Reply
  | done
  | claimed (claim : Option Claim)
  /-- Whether anything was freed or changed. -/
  | changed (changed : Bool)
  | drained (bytes : Bytes)
  /-- How many channels were reached. -/
  | reached (channels : Nat)
deriving Repr, DecidableEq

namespace Reply

/-- The claim that an answer hands over. -/
def claim? : Reply → Option Claim
  | claimed c => c
  | _ => none

/-- The channel that an answer hands over, for a caller who keeps no claim. -/
def channel? (r : Reply) : Option Nat := r.claim?.map Claim.index

end Reply

variable (d : Downlink)

/-- Offers bytes to every active channel. -/
def publish (bytes : Bytes) : Downlink × Nat :=
  let (pool, reached) := d.pool.publish bytes
  ({ d with pool }, reached)

/-- Sends a message with the next sequence number. -/
def send (component : UInt8) (m : Message) : Downlink × Nat :=
  let (publisher, pool, reached) := d.publisher.send d.pool component m
  (⟨pool, publisher⟩, reached)

/-- Sends a status text with the next sequence number, if it is short enough. -/
def sendStatusText (severity : UInt8) (text : String) : Downlink × Nat :=
  let (publisher, pool, reached) :=
    d.publisher.sendStatusText d.pool severity text
  (⟨pool, publisher⟩, reached)

/-- Carries one request out. -/
def perform : Op → Downlink × Reply
  | .claim =>
      let (pool, c) := d.pool.claim
      ({ d with pool }, .claimed c)
  | .release i => ({ d with pool := d.pool.release i }, .done)
  | .releaseClaim c =>
      let (pool, freed) := d.pool.releaseClaim c
      ({ d with pool }, .changed freed)
  | .setOwner i name => ({ d with pool := d.pool.setOwner i name }, .done)
  | .setActive i active =>
      let (pool, changed) := d.pool.setActive i active
      ({ d with pool }, .changed changed)
  | .setClaimActive c active =>
      let (pool, changed) := d.pool.setClaimActive c active
      ({ d with pool }, .changed changed)
  | .drain i n =>
      let (pool, bytes) := d.pool.drain i n
      ({ d with pool }, .drained bytes)
  | .publish bytes =>
      let (d, n) := d.publish bytes
      (d, .reached n)
  | .sendFrame frame =>
      let (d, n) := d.publish frame.encode
      (d, .reached n)
  | .send component m =>
      let (d, n) := d.send component m
      (d, .reached n)
  | .sendHeartbeat component hb =>
      let (d, n) := d.send component hb.toMessage
      (d, .reached n)
  | .sendStatusText severity text =>
      let (d, n) := d.sendStatusText severity text
      (d, .reached n)

/-- Carries requests out in order. -/
def run (ops : List Op) : Downlink := ops.foldl (fun d op => (d.perform op).1) d

/-- The claims that a run of requests hands over, in their order. -/
def issues (d : Downlink) : List Op → List Claim
  | [] => []
  | op :: ops => (d.perform op).2.claim?.toList ++ issues (d.perform op).1 ops

@[simp] theorem run_nil : d.run [] = d := rfl

@[simp] theorem run_cons (op : Op) (ops : List Op) :
    d.run (op :: ops) = (d.perform op).1.run ops := rfl

theorem run_append (ops ops' : List Op) :
    d.run (ops ++ ops') = (d.run ops).run ops' :=
  List.foldl_append

/-- A status text that is too long changes nothing. -/
theorem sendStatusText_of_long (severity : UInt8) (text : String)
    (h : Message.statusText? severity text = none) :
    d.sendStatusText severity text = (d, 0) := by
  simp [sendStatusText, Publisher.sendStatusText, h]

end Downlink

end GroundLink
