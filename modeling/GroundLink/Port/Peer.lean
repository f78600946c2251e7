import GroundLink.Port.Pipe

/-!
# The peer of a pipe

The peer sends, takes what was written, has its way with writes, and leaves;
whatever it sends after that comes to nothing.  `Peer.sent` puts together
everything that it sends, however it was cut, and `Pipe.Holds` says of a pipe
how much of that has been read.

`Peered` endpoints are those whose far end is such a peer.
-/

namespace GroundLink

/-- What the peer of a pipe can do. -/
inductive Peer
  | send (bytes : Bytes)
  | takeWritten
  | receive
  | failWrites (fail : Bool)
  | limitWrites (limit : Option Nat)
  | leave
deriving Repr, DecidableEq

namespace Peer

/-- The pipe after the peer has done something. -/
def act : Peer → Pipe → Pipe
  | send bytes, p => (p.send bytes).1
  | takeWritten, p => p.takeWritten.1
  | receive, p => p.receive.1
  | failWrites fail, p => { p with failWrites := fail }
  | limitWrites limit, p => { p with writeLimit := limit }
  | leave, p => p.dropPeer

/-- Everything that the peer sends before it leaves, as one stream. -/
def sent : List Peer → Bytes
  | [] => []
  | leave :: _ => []
  | send bytes :: rest => bytes ++ sent rest
  | _ :: rest => sent rest

theorem sent_append {doings : List Peer} (h : leave ∉ doings)
    (more : List Peer) :
    sent (doings ++ more) = sent doings ++ sent more := by
  induction doings with
  | nil => rfl
  | cons a rest ih =>
      rw [List.mem_cons, not_or] at h
      cases a with
      | leave => exact absurd rfl h.1
      | send bytes =>
          simp only [List.cons_append, sent, ih h.2, List.append_assoc]
      | _ => exact ih h.2

/-- A peer that has left sends nothing more. -/
theorem sent_append_of_left {doings : List Peer} (h : leave ∈ doings)
    (more : List Peer) :
    sent (doings ++ more) = sent doings := by
  induction doings with
  | nil => cases h
  | cons a rest ih =>
      cases a with
      | leave => rfl
      | send bytes =>
          have hrest : leave ∈ rest := by simpa using h
          simp only [List.cons_append, sent, ih hrest]
      | _ =>
          have hrest : leave ∈ rest := by simpa using h
          exact ih hrest

end Peer

/-- An endpoint with a peer at its far end. -/
class Peered (ε : Type) where
  /-- Nobody has done anything yet. -/
  new : ε
  /-- The peer has done something. -/
  after : ε → Peer → ε
  /-- What the peer has sent and nobody has read. -/
  unread : ε → Bytes

/-- A new endpoint after its peer has done some things. -/
def Peered.filled {ε : Type} [Peered ε] (doings : List Peer) : ε :=
  doings.foldl after new

instance : Peered Pipe where
  new := {}
  after p a := a.act p
  unread := Pipe.inbound

/-- The peer has done these things, and of what it has sent, `read` has been
read: the rest is still there. -/
structure Pipe.Holds (doings : List Peer) (read : Bytes) (p : Pipe) : Prop where
  stream : Peer.sent doings = read ++ p.inbound
  gone : p.peerGone = true ↔ .leave ∈ doings
  present : p.endpointGone = false

namespace Pipe

variable {doings : List Peer} {read : Bytes} {p : Pipe}

/-- What does not concern the half that is read does not matter. -/
theorem Holds.of_same (h : p.Holds doings read) {p' : Pipe}
    (hinbound : p'.inbound = p.inbound) (hgone : p'.peerGone = p.peerGone)
    (hpresent : p'.endpointGone = p.endpointGone) :
    p'.Holds doings read where
  stream := by rw [hinbound, h.stream]
  gone := by rw [hgone, h.gone]
  present := by rw [hpresent, h.present]

/-- Something that is neither to send nor to leave adds nothing to the
stream. -/
theorem Holds.still (h : p.Holds doings read) (a : Peer)
    (hsends : Peer.sent [a] = []) (hstays : a ≠ .leave) :
    p.Holds (doings ++ [a]) read where
  stream := by
    rw [← h.stream]
    by_cases hleft : .leave ∈ doings
    · exact Peer.sent_append_of_left hleft [a]
    · rw [Peer.sent_append hleft, hsends, List.append_nil]
  gone := by
    rw [h.gone, List.mem_append, List.mem_singleton, or_iff_left hstays.symm]
  present := h.present

theorem receive_same (p : Pipe) : p.receive.1.inbound = p.inbound ∧
    p.receive.1.peerGone = p.peerGone ∧
    p.receive.1.endpointGone = p.endpointGone := by
  unfold receive
  split <;> exact ⟨rfl, rfl, rfl⟩

/-- **Whatever the peer does**, nothing is lost and nothing comes in between. -/
theorem Holds.act (h : p.Holds doings read) (a : Peer) :
    (a.act p).Holds (doings ++ [a]) read := by
  cases a with
  | send bytes =>
      change (p.send bytes).1.Holds _ _
      unfold Pipe.send
      by_cases hleft : .leave ∈ doings
      · rw [if_pos (by simp [h.gone.mpr hleft])]
        exact ⟨(Peer.sent_append_of_left hleft _).trans h.stream, by
            simp [h.gone], h.present⟩
      · have hgone : ¬p.peerGone = true := fun hgone => hleft (h.gone.mp hgone)
        rw [if_neg (by simp [hgone, h.present])]
        refine ⟨?_, by simp [h.gone], h.present⟩
        rw [Peer.sent_append hleft, h.stream]
        simp [Peer.sent]
  | leave =>
      refine ⟨?_, by simp [Peer.act, dropPeer], h.present⟩
      by_cases hleft : .leave ∈ doings
      · exact (Peer.sent_append_of_left hleft _).trans h.stream
      · rw [Peer.sent_append hleft, h.stream]
        simp [Peer.sent, Peer.act, dropPeer]
  | receive =>
      obtain ⟨hinbound, hgone, hpresent⟩ := p.receive_same
      exact (h.still .receive rfl nofun).of_same hinbound hgone hpresent
  | takeWritten => exact (h.still .takeWritten rfl nofun).of_same rfl rfl rfl
  | failWrites fail =>
      exact (h.still (.failWrites fail) rfl nofun).of_same rfl rfl rfl
  | limitWrites limit =>
      exact (h.still (.limitWrites limit) rfl nofun).of_same rfl rfl rfl

/-- A new pipe holds all that the peer has sent. -/
theorem holds_filled (doings : List Peer) :
    (Peered.filled doings : Pipe).Holds doings [] := by
  have hacts (p : Pipe) {before : List Peer} (h : p.Holds before [])
      (doings : List Peer) :
      (doings.foldl Peered.after p).Holds (before ++ doings) [] := by
    induction doings generalizing p before with
    | nil => rwa [List.append_nil]
    | cons a rest ih =>
        rw [List.append_cons]
        exact ih (a.act p) (h.act a)
  have hnew : ({} : Pipe).Holds [] [] := ⟨rfl, by simp, rfl⟩
  exact hacts {} hnew doings

/-- A read gives the next bytes of the stream.  Or nothing is left and the peer
is gone. -/
theorem Holds.read_cases (h : p.Holds doings read) (n : Nat) :
    (∃ bytes, (p.read n).2 = .ok bytes ∧
      (p.read n).1.Holds doings (read ++ bytes)) ∨
      (p.read n).2 = .error .unexpectedEof ∧ .leave ∈ doings ∧
      Peer.sent doings = read := by
  unfold Pipe.read
  split
  · exact Or.inl ⟨[], rfl, by rwa [List.append_nil]⟩
  · split
    · next hover =>
        rw [Bool.and_eq_true, List.isEmpty_iff] at hover
        refine Or.inr ⟨rfl, h.gone.mp hover.2, ?_⟩
        rw [h.stream, hover.1, List.append_nil]
    · refine Or.inl ⟨p.inbound.take n, rfl, ?_, h.gone, h.present⟩
      rw [List.append_assoc, List.take_append_drop, h.stream]

end Pipe

end GroundLink
