import GroundLink.Channel.Broadcast

/-!
# The post book

What goes out over a downlink can be told from the steps alone, without a
look at the downlink or at any beacon.  A beacon sends the heartbeat that it
was given last, or that of an autopilot in mode 0 as long as it was given none
(`Broadcast.Advertises`); and every step sends letters of which each byte is
known from the step and from the steps before it (`Broadcast.Sends`).  The
post book is the list of all these letters (`Broadcast.Posted`).

The steps before are listed with the latest one first.
-/

namespace GroundLink

/-- The nine bytes of a heartbeat.  The mode stands first, low byte first. -/
def Heartbeat.bytes (hb : Heartbeat) : Bytes :=
  [hb.customMode.toUInt8, (hb.customMode >>> 8).toUInt8,
    (hb.customMode >>> 16).toUInt8, (hb.customMode >>> 24).toUInt8,
    hb.kind, hb.autopilot, hb.baseMode, hb.status, hb.version]

namespace Broadcast

namespace Step

/-- Whether one beacon more is set up. -/
def isAdd : Step → Bool
  | add _ => true
  | _ => false

/-- Whether something is to be sent in the publisher's numbers. -/
def isPost : Step → Bool
  | ask (.send ..) | ask (.sendHeartbeat ..) | ask (.sendStatusText ..) => true
  | round _ => true
  | _ => false

end Step

/-- **What beacon `k` advertises** after these steps, and whether it announces
a camera as well. -/
inductive Advertises (k : Nat) : List Step → Bool → Heartbeat → Prop
  /-- A new beacon speaks for an active autopilot in mode 0. -/
  | added {past : List Step} {camera : Bool}
      (h : past.countP Step.isAdd = k) :
      Advertises k (.add camera :: past) camera ⟨0, 0, 0, 0, 4, 3⟩
  /-- It is given another heartbeat. -/
  | given {past : List Step} {camera : Bool} {old new : Heartbeat}
      (h : Advertises k past camera old) :
      Advertises k (.advertise k new :: past) camera new
  /-- Nothing else changes what it advertises. -/
  | still {past : List Step} {s : Step} {camera : Bool} {hb : Heartbeat}
      (h : Advertises k past camera hb)
      (hs : ∀ new, s ≠ .advertise k new) :
      Advertises k (s :: past) camera hb

/-- **What a step sends**, by a publisher whose own component is `own`. -/
inductive Sends (own : UInt8) (past : List Step) : Step → List Letter → Prop
  | message {component : UInt8} {m : Message} :
      Sends own past (.ask (.send component m)) [⟨component, m⟩]
  | heartbeat {component : UInt8} {hb : Heartbeat} :
      Sends own past (.ask (.sendHeartbeat component hb))
        [⟨component, ⟨0, hb.bytes⟩⟩]
  /-- A text is filled up with zeros. -/
  | text {severity : UInt8} {text : String}
      (hshort : text.toUTF8.toList.length ≤ 50) :
      Sends own past (.ask (.sendStatusText severity text))
        [⟨own, ⟨253, severity :: (text.toUTF8.toList ++
          List.replicate (50 - text.toUTF8.toList.length) 0)⟩⟩]
  /-- A text that is too long is not sent. -/
  | refusal {severity : UInt8} {text : String}
      (hlong : 50 < text.toUTF8.toList.length) :
      Sends own past (.ask (.sendStatusText severity text)) []
  /-- A beacon speaks for the autopilot. -/
  | round {k : Nat} {hb : Heartbeat} (h : Advertises k past false hb) :
      Sends own past (.round k) [⟨1, ⟨0, hb.bytes⟩⟩]
  /-- And for an active camera, which is no autopilot, if it is asked to. -/
  | roundWithCamera {k : Nat} {hb : Heartbeat}
      (h : Advertises k past true hb) :
      Sends own past (.round k)
        [⟨1, ⟨0, hb.bytes⟩⟩, ⟨100, ⟨0, [0, 0, 0, 0, 30, 8, 0, 4, 3]⟩⟩]
  | noBeacon {k : Nat} (h : past.countP Step.isAdd ≤ k) :
      Sends own past (.round k) []
  | nothing {s : Step} (h : s.isPost = false) : Sends own past s []

/-- **The letters that go out** over many steps, after the steps of `past`. -/
inductive Posted (own : UInt8) :
    (past : List Step) → List Step → List Letter → Prop
  | nil {past : List Step} : Posted own past [] []
  | cons {past steps : List Step} {s : Step} {letters more : List Letter}
      (h : Sends own past s letters)
      (hmore : Posted own (s :: past) steps more) :
      Posted own past (s :: steps) (letters ++ more)

end Broadcast

end GroundLink
