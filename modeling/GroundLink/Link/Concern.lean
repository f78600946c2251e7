import GroundLink.Link.Traffic

/-!
# What concerns a link

Links share the pool of channels, the count of active links and the publisher,
and little of what happens there is a link's business: that it goes on or is
dropped, what the far end of its endpoint does, what is published, and what is
asked about its own channel.  `Act.concern?` is what an act is to one link on
one channel.

A handler that keeps nothing in mind is no more than its verdicts on frames.
`Traffic.heed` is an act of a traffic with such a handler: whoever waits for a
verdict is given it.
-/

namespace GroundLink

/-- Whether a request makes a difference to channel `i`: it is about this
channel, or sends something to all of them.  A claim is neither. -/
def Downlink.Op.concerns (i : Nat) : Op → Bool
  | .claim => false
  | .release j => j == i
  | .releaseClaim c => c.index == i
  | .setOwner j _ => j == i
  | .setActive j _ => j == i
  | .setClaimActive c _ => c.index == i
  | .drain j _ => j == i
  | .publish _ => true
  | .sendFrame _ => true
  | .send _ _ => true
  | .sendHeartbeat _ _ => true
  | .sendStatusText _ _ => true

/-- What an act can be to a link. -/
inductive Concern (ε : Type)
  | goes (now : Nat)
  | dropped
  | far (f : ε → ε)
  | asked (op : Downlink.Op)

namespace Act

variable {ε : Type}

/-- Whether a channel is claimed. -/
def isClaim : Act ε → Bool
  | .connect .. => true
  | .ask .claim => true
  | _ => false

/-- What an act is to link `k` on channel `i`. -/
def concern? (k i : Nat) : Act ε → Option (Concern ε)
  | .connect .. => none
  | .resume j cue => if j = k then some (.goes cue.now) else none
  | .drop j => if j = k then some .dropped else none
  | .far j f => if j = k then some (.far f) else none
  | .ask op => if op.concerns i then some (.asked op) else none

end Act

/-- What a waiting link gets to know at `now` if each frame has its verdict. -/
def Cue.of (verdict : Frame → Except Refusal Unit) (now : Nat) : Stand → Cue
  | .judging _ f _ => { now, verdict := verdict f }
  | _ => { now }

namespace Traffic

variable {ε : Type} [Endpoint ε]

/-- Lets one thing happen where each frame has its verdict. -/
def heed (verdict : Frame → Except Refusal Unit) (w : Traffic ε) :
    Act ε → Traffic ε
  | .resume k cue =>
      match w.courses[k]? with
      | none => w
      | some c => w.act (.resume k (.of verdict cue.now c.stand))
  | a => w.act a

/-- Lets things happen one after the other, where each frame has its verdict. -/
def heedAll (verdict : Frame → Except Refusal Unit) (w : Traffic ε)
    (acts : List (Act ε)) :
    Traffic ε :=
  acts.foldl (heed verdict) w

@[simp] theorem heedAll_nil (verdict : Frame → Except Refusal Unit)
    (w : Traffic ε) :
    w.heedAll verdict [] = w := rfl

@[simp] theorem heedAll_cons (verdict : Frame → Except Refusal Unit)
    (w : Traffic ε) (a : Act ε) (acts : List (Act ε)) :
    w.heedAll verdict (a :: acts) = (w.heed verdict a).heedAll verdict acts :=
  rfl

theorem heedAll_append (verdict : Frame → Except Refusal Unit) (w : Traffic ε)
    (acts acts' : List (Act ε)) :
    w.heedAll verdict (acts ++ acts') =
      (w.heedAll verdict acts).heedAll verdict acts' :=
  List.foldl_append

end Traffic

end GroundLink
