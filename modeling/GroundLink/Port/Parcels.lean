import GroundLink.Port.Peer

/-!
# The pipe piece by piece

`Pipe` keeps what the peer has sent as one stream.  `Parcels` keeps it as it
comes: the pieces that the peer has sent, each by itself, and beside them the
bytes of those that have been opened.  A read opens pieces until it has enough,
and finds out that the peer is gone only when there are none left.

That makes no difference: `asPipe` puts the pieces together, and the pipe
answers the same (`asPipe_read`, `asPipe_write`).
-/

namespace GroundLink

/-- A pipe with what the peer has sent in pieces. -/
structure Parcels where
  /-- Bytes of opened pieces that have not been read. -/
  opened : Bytes := []
  /-- Pieces that have not been opened, the oldest first. -/
  pieces : List Bytes := []
  outbound : List Bytes := []
  failWrites : Bool := false
  writeLimit : Option Nat := none
  peerGone : Bool := false
  endpointGone : Bool := false
deriving Repr, DecidableEq

namespace Parcels

/-- Opens pieces until there are `n` bytes or no pieces left. -/
def gather (n : Nat) :
    (opened : Bytes) → (pieces : List Bytes) → Bytes × List Bytes
  | opened, [] => (opened, [])
  | opened, piece :: pieces =>
      if opened.length < n then gather n (opened ++ piece) pieces
        else (opened, piece :: pieces)

variable (p : Parcels)

/-- The pipe with `n` bytes opened, if there are so many. -/
def openUp (n : Nat) : Parcels :=
  { p with
    opened := (gather n p.opened p.pieces).1,
    pieces := (gather n p.opened p.pieces).2 }

/-- The pipe as a stream. -/
def asPipe : Pipe where
  inbound := p.opened ++ p.pieces.flatten
  outbound := p.outbound
  failWrites := p.failWrites
  writeLimit := p.writeLimit
  peerGone := p.peerGone
  endpointGone := p.endpointGone

/-! ## The peer -/

/-- Sends a piece. -/
def send (bytes : Bytes) : Parcels × Bool :=
  if p.endpointGone || p.peerGone then (p, false)
  else ({ p with pieces := p.pieces ++ [bytes] }, true)

/-- The pipe after its peer has done something. -/
def after : Peer → Parcels
  | .send bytes => (p.send bytes).1
  | .takeWritten => { p with outbound := [] }
  | .receive => { p with outbound := p.outbound.drop 1 }
  | .failWrites fail => { p with failWrites := fail }
  | .limitWrites limit => { p with writeLimit := limit }
  | .leave => { p with peerGone := true, outbound := [] }

/-! ## The endpoint -/

/-- Reads up to `n` bytes of what has been opened. -/
def readOpened (n : Nat) : Parcels × Except Fault Bytes :=
  if p.opened.isEmpty then
    if p.opened.length < n && p.peerGone then (p, .error .unexpectedEof)
      else (p, .ok [])
  else
    let m := min p.opened.length n
    ({ p with opened := p.opened.drop m }, .ok (p.opened.take m))

/-- Reads up to `n` bytes. -/
def read (n : Nat) : Parcels × Except Fault Bytes := (p.openUp n).readOpened n

/-- Writes what one write takes. -/
def write (bytes : Bytes) : Parcels × Except Fault Nat :=
  if p.failWrites then (p, .error .brokenPipe)
  else
    let n := p.asPipe.accepts bytes.length
    if n = 0 then (p, .ok 0)
    else if p.peerGone then (p, .error .brokenPipe)
    else ({ p with outbound := p.outbound ++ [bytes.take n] }, .ok n)

end Parcels

instance : Endpoint Parcels where
  transport _ := .memory
  read := Parcels.read
  write := Parcels.write

instance : Peered Parcels where
  new := {}
  after := Parcels.after
  unread p := p.opened ++ p.pieces.flatten

namespace Parcels

/-! ## One stream -/

/-- To open pieces puts nothing in and takes nothing out. -/
theorem gather_stream (n : Nat) (opened : Bytes) (pieces : List Bytes) :
    (gather n opened pieces).1 ++ (gather n opened pieces).2.flatten =
      opened ++ pieces.flatten := by
  induction pieces generalizing opened with
  | nil => rfl
  | cons piece pieces ih =>
      unfold gather
      split
      · rw [ih, List.flatten_cons, List.append_assoc]
      · rfl

/-- There is enough, or everything has been opened. -/
theorem gather_enough (n : Nat) (opened : Bytes) (pieces : List Bytes) :
    n ≤ (gather n opened pieces).1.length ∨
    (gather n opened pieces).2 = [] := by
  induction pieces generalizing opened with
  | nil => exact Or.inr rfl
  | cons piece pieces ih =>
      unfold gather
      split
      · exact ih _
      · next henough => exact Or.inl (Nat.not_lt.mp henough)

theorem asPipe_openUp (p : Parcels) (n : Nat) :
    (p.openUp n).asPipe = p.asPipe := by
  unfold asPipe openUp
  rw [gather_stream]

theorem asPipe_readOpened {p : Parcels} {n : Nat}
    (h : n ≤ p.opened.length ∨ p.pieces = []) :
    p.asPipe.read n = ((p.readOpened n).1.asPipe, (p.readOpened n).2) := by
  have hstream : p.asPipe.inbound = p.opened ++ p.pieces.flatten := rfl
  have hgone : p.asPipe.peerGone = p.peerGone := rfl
  unfold Pipe.read readOpened
  rw [hstream, hgone]
  cases hopened : p.opened with
  | nil =>
      by_cases hn : n = 0
      · simp [hn]
      · -- nothing has been opened although something was asked for: there is
        -- nothing
        have hpieces : p.pieces = [] := by
          rw [hopened] at h
          rcases h with h | h
          · exact absurd (Nat.le_zero.mp h) hn
          · exact h
        have hpos : 0 < n := Nat.pos_of_ne_zero hn
        cases hleft : p.peerGone <;>
          simp [hn, hpos, hpieces, asPipe, hopened, hleft]
  | cons b rest =>
      have htake : (b :: rest ++ p.pieces.flatten).take n =
          (b :: rest).take (min (b :: rest).length n) := by
        rw [← hopened]
        rcases h with h | h
        · rw [List.take_append_of_le_length h, Nat.min_eq_right h]
        · rw [h, List.flatten_nil, List.append_nil, List.take_eq_take_min,
            Nat.min_comm]
      have hdrop : (b :: rest ++ p.pieces.flatten).drop n =
          (b :: rest).drop (min (b :: rest).length n) ++ p.pieces.flatten := by
        rw [← hopened]
        rcases h with h | h
        · rw [List.drop_append_of_le_length h, Nat.min_eq_right h]
        · rw [h, List.flatten_nil, List.append_nil, List.append_nil]
          by_cases hle : n ≤ p.opened.length
          · rw [Nat.min_eq_right hle]
          · have hle' : p.opened.length ≤ n := Nat.le_of_not_le hle
            rw [Nat.min_eq_left hle', List.drop_length,
              List.drop_eq_nil_of_le hle']
      by_cases hn : n = 0
      · simp [hn, asPipe, hopened]
      · rw [if_neg hn, htake, hdrop]
        simp [asPipe]

/-- **A read gives the same** from pieces as from a stream. -/
theorem asPipe_read (p : Parcels) (n : Nat) :
    p.asPipe.read n = ((p.read n).1.asPipe, (p.read n).2) := by
  have hread :=
    asPipe_readOpened (p := p.openUp n) (gather_enough n p.opened p.pieces)
  rwa [asPipe_openUp] at hread

theorem asPipe_write (p : Parcels) (bytes : Bytes) :
    p.asPipe.write bytes = ((p.write bytes).1.asPipe, (p.write bytes).2) := by
  have hfail : p.asPipe.failWrites = p.failWrites := rfl
  have hgone : p.asPipe.peerGone = p.peerGone := rfl
  unfold Pipe.write write
  rw [hfail, hgone]
  split
  · rfl
  · dsimp only
    split
    · rfl
    · split <;> rfl

theorem asPipe_send (p : Parcels) (bytes : Bytes) :
    p.asPipe.send bytes = ((p.send bytes).1.asPipe, (p.send bytes).2) := by
  have hgone : p.asPipe.peerGone = p.peerGone := rfl
  have hpresent : p.asPipe.endpointGone = p.endpointGone := rfl
  unfold send Pipe.send
  rw [hgone, hpresent]
  split
  · rfl
  · simp [asPipe]

/-- **A peer does the same** to a pipe in pieces as in a stream. -/
theorem asPipe_after (p : Parcels) (a : Peer) :
    (p.after a).asPipe = a.act p.asPipe := by
  cases a with
  | send bytes => exact (congrArg Prod.fst (p.asPipe_send bytes)).symm
  | receive =>
      change _ = p.asPipe.receive.1
      unfold Pipe.receive
      cases hout : p.outbound <;> simp [after, asPipe, hout]
  | _ => rfl

theorem asPipe_filled (doings : List Peer) :
    (Peered.filled doings : Parcels).asPipe = Peered.filled doings := by
  have hacts (p : Parcels) (doings : List Peer) :
      (doings.foldl Peered.after p).asPipe =
        doings.foldl Peered.after p.asPipe := by
    induction doings generalizing p with
    | nil => rfl
    | cons a rest ih =>
        rw [List.foldl_cons, List.foldl_cons, ih]
        exact congrArg (rest.foldl Peered.after) (p.asPipe_after a)
  exact hacts {} doings

end Parcels

end GroundLink
