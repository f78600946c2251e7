import GroundLink.Port.Exchange
import Mathlib.Data.List.Induction

/-!
# A pair of lossless streams

What the ledger of a pipe has down as sent and not as read is what the pipe
still holds, and what it has down as accepted and not as taken is what is on its
way to the peer, as long as there is someone to read it or to take it
(`Pipe.Balances`).  One thing more that is done leaves it so
(`Balances.perform`), and what is learned from it follows.

A pipe in pieces has the ledger of the pipe as a stream
(`Parcels.asPipe_course`): to open pieces, empty ones among them, as they are
asked for is the same as to have one stream, and nobody finds the peer gone
while there are bytes left in any of them.
-/

namespace GroundLink

open TwoEnded

namespace Pipe

/-- **What a pipe holds** is what its ledger has down as under way. -/
structure Balances (p : Pipe) (l : Ledger) : Prop where
  peer : p.peerGone = l.peerLeft
  endpoint : p.endpointGone = l.endpointLeft
  failing : p.failWrites = l.failing
  limit : p.writeLimit = l.limit
  read_prefix : l.read <+: l.sent
  taken_prefix : l.taken <+: l.accepted
  inbound : l.endpointLeft = false → l.sent = l.read ++ p.inbound
  outbound : l.peerLeft = false → l.accepted = l.taken ++ p.outbound.flatten

variable {p : Pipe} {l : Ledger}

/-- A new pipe and an empty ledger agree. -/
theorem balances_new : ({} : Pipe).Balances {} where
  peer := rfl
  endpoint := rfl
  failing := rfl
  limit := rfl
  read_prefix := List.prefix_rfl
  taken_prefix := List.prefix_rfl
  inbound _ := rfl
  outbound _ := rfl

/-- The pipe takes as much as the ledger says. -/
theorem Balances.accepts (h : p.Balances l) (n : Nat) :
    p.accepts n = l.passes n := by
  unfold Pipe.accepts Ledger.passes
  rw [h.limit]
  cases l.limit <;> rfl

/-! ## What the peer does -/

/-- What the peer sends is booked as sent, unless the other end has left. -/
theorem Balances.send (h : p.Balances l) (here : l.peerLeft = false)
    (bytes : Bytes) :
    (p.send bytes).1.Balances
      (l.enter (.peer (.send bytes)) (.sent (p.send bytes).2)) := by
  unfold Pipe.send
  cases hleft : l.endpointLeft with
  | true =>
      rw [if_pos (by simp [h.endpoint, hleft])]
      exact h
  | false =>
      rw [if_neg (by simp [h.endpoint, h.peer, hleft, here])]
      exact { h with
        read_prefix := h.read_prefix.trans (List.prefix_append _ _)
        inbound := fun _ => by simp [Ledger.enter, h.inbound hleft] }

/-- What is taken is what came first of what was accepted. -/
theorem Balances.take (h : p.Balances l) (here : l.peerLeft = false)
    {bytes : Bytes} {rest : List Bytes}
    (hsplit : p.outbound.flatten = bytes ++ rest.flatten) :
    Balances { p with outbound := rest }
      { l with taken := l.taken ++ bytes } := by
  have houtbound : l.accepted = l.taken ++ bytes ++ rest.flatten := by
    rw [h.outbound here, hsplit, List.append_assoc]
  exact { h with
    taken_prefix := ⟨rest.flatten, houtbound.symm⟩
    outbound := fun _ => houtbound }

/-- What the peer gets is booked as taken. -/
theorem Balances.receive (h : p.Balances l) (here : l.peerLeft = false) :
    p.receive.1.Balances
      (l.enter (.peer .receive) (.received p.receive.2)) := by
  unfold Pipe.receive
  cases hout : p.outbound with
  | cons bytes rest => exact h.take here (by rw [hout, List.flatten_cons])
  | nil =>
      dsimp only
      split <;> exact h

/-- **Whatever the peer does**. -/
theorem Balances.act (h : p.Balances l) (here : l.peerLeft = false) (a : Peer) :
    (a.act p).Balances (l.enter (.peer a) (p.tell a)) := by
  cases a with
  | send bytes => exact h.send here bytes
  | takeWritten => exact h.take here (List.append_nil _).symm
  | receive => exact h.receive here
  | failWrites fail => exact { h with failing := rfl }
  | limitWrites limit => exact { h with limit := rfl }
  | leave => exact { h with peer := rfl, outbound := nofun }

/-! ## What is done at the endpoint -/

/-- What is read is booked off what was sent. -/
theorem Balances.read (h : p.Balances l) (here : l.endpointLeft = false)
    (n : Nat) :
    (p.read n).1.Balances (l.enter (.read n) (.read (p.read n).2)) := by
  have hinbound := h.inbound here
  unfold Pipe.read
  split
  · have hnothing : l.enter (.read n) (.read (.ok [])) = l := by
      simp [Ledger.enter]
    rw [hnothing]
    exact h
  · split
    · exact h
    · have hsent : l.sent = l.read ++ p.inbound.take n ++ p.inbound.drop n := by
        rw [List.append_assoc, List.take_append_drop, hinbound]
      exact { h with
        read_prefix := ⟨p.inbound.drop n, hsent.symm⟩
        inbound := fun _ => hsent }

/-- What a write takes is booked, and nothing else of it. -/
theorem Balances.write (h : p.Balances l) (bytes : Bytes) :
    (p.write bytes).1.Balances
      (l.enter (.write bytes) (.wrote (p.write bytes).2)) := by
  unfold Pipe.write
  split
  · exact h
  · dsimp only
    split
    · have hnothing : l.enter (.write bytes) (.wrote (.ok 0)) = l := by
        simp [Ledger.enter]
      rw [hnothing]
      exact h
    · split
      · exact h
      · exact { h with
          taken_prefix := h.taken_prefix.trans (List.prefix_append _ _)
          outbound := fun here => by simp [Ledger.enter, h.outbound here] }

/-- An end that leaves is booked as gone. -/
theorem Balances.drop (h : p.Balances l) :
    p.dropEndpoint.Balances (l.enter .drop .done) :=
  { h with endpoint := rfl, inbound := nofun }

/-- **One thing more** is done, and the ledger is right again. -/
theorem Balances.perform (h : p.Balances l) (d : Doing) :
    (perform p d).1.Balances (l.enter d (perform p d).2) := by
  cases hgone : gone p d with
  | true =>
      rw [perform_gone hgone, Ledger.enter_absent]
      exact h
  | false =>
      rw [perform_here hgone]
      cases d with
      | peer a => exact h.act (h.peer.symm.trans hgone) a
      | read n => exact h.read (h.endpoint.symm.trans hgone) n
      | write bytes => exact h.write bytes
      | drop => exact h.drop

/-- Pipe and ledger agree after every course of doings. -/
theorem balances_course (doings : List Doing) :
    (course doings : Pipe × Ledger).1.Balances
      (course doings : Pipe × Ledger).2 := by
  induction doings using List.reverseRecOn with
  | nil => exact balances_new
  | append_singleton doings d ih =>
      rw [course_concat]
      exact ih.perform d

/-! ## Who has gone -/

/-- The peer has left once it was to leave. -/
theorem Balances.peerLeft_perform (h : p.Balances l) (d : Doing) :
    (l.enter d (TwoEnded.perform p d).2).peerLeft = true ↔ l.peerLeft = true ∨
    d = .peer .leave := by
  rw [Ledger.peerLeft_enter]
  refine ⟨Or.imp_right And.left, ?_⟩
  rintro (hleft | rfl)
  · exact Or.inl hleft
  · cases hleft : l.peerLeft with
    | true => exact Or.inl rfl
    | false =>
        rw [perform_here (p := p) (d := .peer .leave) (h.peer.trans hleft)]
        exact Or.inr ⟨rfl, rfl⟩

/-- The endpoint has left just if it was dropped, now or before. -/
theorem Balances.endpointLeft_perform (h : p.Balances l) (d : Doing) :
    (l.enter d (TwoEnded.perform p d).2).endpointLeft = true ↔
    l.endpointLeft = true ∨ d = .drop := by
  rw [Ledger.endpointLeft_enter]
  refine ⟨Or.imp_right And.left, ?_⟩
  rintro (hleft | rfl)
  · exact Or.inl hleft
  · cases hleft : l.endpointLeft with
    | true => exact Or.inl rfl
    | false =>
        rw [perform_here (p := p) (d := .drop) (h.endpoint.trans hleft)]
        exact Or.inr ⟨rfl, rfl⟩

/-- **Whoever was to go has gone**, and nobody else. -/
theorem left_course (doings : List Doing) :
    let l := (course doings : Pipe × Ledger).2
    (l.peerLeft = true ↔ .peer .leave ∈ doings) ∧
    (l.endpointLeft = true ↔ .drop ∈ doings) := by
  induction doings using List.reverseRecOn with
  | nil => exact ⟨by simp [course], by simp [course]⟩
  | append_singleton doings d ih =>
      have hbalances := balances_course doings
      rw [course_concat]
      refine ⟨(hbalances.peerLeft_perform d).trans ?_,
        (hbalances.endpointLeft_perform d).trans ?_⟩
      · rw [ih.1, List.mem_append, List.mem_singleton, eq_comm]
      · rw [ih.2, List.mem_append, List.mem_singleton, eq_comm]

/-! ## What is learned -/

/-- A send succeeds as long as the other end is there. -/
theorem Balances.sends (h : p.Balances l) (here : l.peerLeft = false)
    (bytes : Bytes) :
    (p.send bytes).2 = !l.endpointLeft := by
  unfold Pipe.send
  rw [h.endpoint, h.peer, here, Bool.or_false]
  cases l.endpointLeft <;> rfl

/-- A read gets the next bytes that were sent, as many as there are and fit, and
the end of file only after the last of them. -/
theorem Balances.reads (h : p.Balances l) (here : l.endpointLeft = false)
    {n : Nat} (hn : 0 < n) :
    if l.peerLeft = true ∧ l.read = l.sent then
      (p.read n).2 = .error .unexpectedEof
    else
      ∃ bytes, (p.read n).2 = .ok bytes ∧
        bytes.length = min n (l.sent.length - l.read.length) ∧
        l.read ++ bytes <+: l.sent := by
  have hinbound := h.inbound here
  have hall : l.read = l.sent ↔ p.inbound = [] := by
    rw [hinbound, List.self_eq_append_right]
  unfold Pipe.read
  rw [if_neg (Nat.ne_of_gt hn)]
  split
  · next hover => rw [if_pos (by simp [hall.mp hover.2, h.peer, hover.1])]
  · next hmore =>
      have hmore' : ¬(p.inbound.isEmpty && p.peerGone) = true := by
        rw [Bool.and_eq_true, List.isEmpty_iff, h.peer, ← hall]
        exact fun hover => hmore hover.symm
      rw [if_neg hmore']
      refine ⟨p.inbound.take n, rfl, ?_, p.inbound.drop n, ?_⟩
      · rw [List.length_take, hinbound, List.length_append,
          Nat.add_sub_cancel_left]
      · rw [List.append_assoc, List.take_append_drop, hinbound]

/-- A write is answered with what passes, or with a fault if one was set or the
peer has left. -/
theorem Balances.writes (h : p.Balances l) (data : Bytes) :
    (p.write data).2 =
      if l.failing = true ∨ l.peerLeft = true ∧ 0 < l.passes data.length then
        .error .brokenPipe
      else .ok (l.passes data.length) := by
  unfold Pipe.write
  rw [h.failing, h.accepts, h.peer]
  cases l.failing with
  | true => rfl
  | false => cases l.peerLeft <;> cases l.passes data.length <;> simp

/-- **What is learned** follows from the ledger. -/
theorem Balances.lossless (h : p.Balances l) : Lossless p l where
  read_prefix := h.read_prefix
  taken_prefix := h.taken_prefix
  sends := by
    intro here bytes
    rw [perform_here (p := p) (d := .peer (.send bytes)) (h.peer.trans here)]
    exact congrArg Outcome.sent (h.sends here bytes)
  reads := by
    intro here n hn
    have hreads := h.reads here hn
    rw [perform_here (p := p) (d := .read n) (h.endpoint.trans here)]
    split
    · next hover =>
        rw [if_pos hover] at hreads
        exact congrArg Outcome.read hreads
    · next hmore =>
        rw [if_neg hmore] at hreads
        obtain ⟨bytes, hbytes, hnext⟩ := hreads
        exact ⟨bytes, congrArg Outcome.read hbytes, hnext⟩
  takes := by
    intro here
    rw [perform_here (p := p) (d := .peer .takeWritten) (h.peer.trans here)]
    exact ⟨p.outbound.flatten, rfl, (h.outbound here).symm⟩
  writes := by
    intro here data
    rw [perform_here (p := p) (d := .write data) (h.endpoint.trans here)]
    exact congrArg Outcome.wrote (h.writes data)

end Pipe

namespace Parcels

variable (p : Parcels)

/-- The pipe and its parcels do the same for the peer. -/
theorem asPipe_tell (a : Peer) : p.asPipe.tell a = p.tell a := by
  cases a with
  | send bytes => exact congrArg (Outcome.sent ·.2) (p.asPipe_send bytes)
  | _ => rfl

/-- **Each end learns the same** from pieces as from a stream. -/
theorem asPipe_perform (d : Doing) :
    perform p.asPipe d = ((perform p d).1.asPipe, (perform p d).2) := by
  have hgone : gone p.asPipe d = gone p d := by cases d <;> rfl
  unfold perform
  rw [hgone]
  split
  · rfl
  · cases d with
    | peer a => exact Prod.ext (p.asPipe_after a).symm (p.asPipe_tell a)
    | read n =>
        exact congrArg (fun x => (x.1, Outcome.read x.2)) (p.asPipe_read n)
    | write bytes =>
        exact congrArg (fun x => (x.1, Outcome.wrote x.2))
          (p.asPipe_write bytes)
    | drop => rfl

/-- Over any course the parcels stand for the pipe, with one ledger for both. -/
theorem asPipe_course (doings : List Doing) :
    (course doings : Pipe × Ledger) =
      ((course doings : Parcels × Ledger).1.asPipe,
        (course doings : Parcels × Ledger).2) := by
  induction doings using List.reverseRecOn with
  | nil => rfl
  | append_singleton doings d ih =>
      rw [course_concat, course_concat, ih]
      unfold record
      rw [asPipe_perform]

variable {p} {l : Ledger}

/-- Only what is learned matters. -/
theorem lossless_of_asPipe (h : Lossless p.asPipe l) : Lossless p l where
  read_prefix := h.read_prefix
  taken_prefix := h.taken_prefix
  sends := by simpa only [asPipe_perform] using h.sends
  reads := by simpa only [asPipe_perform] using h.reads
  takes := by simpa only [asPipe_perform] using h.takes
  writes := by simpa only [asPipe_perform] using h.writes

end Parcels

/-- **A pipe is a pair of lossless streams.**  Take any things done at its two
ends in any order: sends, empty ones too, reads into buffers of any sizes,
writes, faults and limits asked for, all that was written taken or one write of
it, and either end gone.  Then what has been read begins what was sent, and what
has been taken begins what was accepted.  A send arrives as long as the endpoint
is there.  A read gives as many bytes as there are or as it has room for, and
fails with the end of the stream just when the peer has left and everything has
been read.  A write reports as many bytes as the limit lets through, and fails
just when it was asked to or when the peer has left and there is a byte to pass
on.  What it passes on is what it reports, and nothing where it fails: who takes
all that was written has exactly what was accepted.

All this holds of the pipe with its pieces and of the pipe as a stream, whose
ledgers are the same. -/
theorem pair_lossless (doings : List Doing) :
    let pair : Parcels × Ledger := course doings
    Lossless pair.1 pair.2 ∧
      (pair.2.peerLeft = true ↔ .peer .leave ∈ doings) ∧
      (pair.2.endpointLeft = true ↔ .drop ∈ doings) ∧
      course doings = (pair.1.asPipe, pair.2) ∧
      Lossless pair.1.asPipe pair.2 := by
  intro pair
  have hpipe : course doings = (pair.1.asPipe, pair.2) :=
    Parcels.asPipe_course doings
  have hbalances := Pipe.balances_course doings
  have hleft := Pipe.left_course doings
  rw [hpipe] at hbalances hleft
  have hlossless : Lossless pair.1.asPipe pair.2 := hbalances.lossless
  exact ⟨Parcels.lossless_of_asPipe hlossless, hleft.1, hleft.2, hpipe,
    hlossless⟩

/-- The end of the stream shows only once the bytes left over in a piece have
been read. -/
example :
    (course [.peer (.send [1, 2]), .peer (.send []), .peer (.send [3]), .read 1,
      .peer .leave, .read 8, .read 8] : Parcels × Ledger).2 =
      { sent := [1, 2, 3], read := [1, 2, 3], peerLeft := true } := by decide

end GroundLink
