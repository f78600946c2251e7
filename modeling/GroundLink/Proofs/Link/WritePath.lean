import GroundLink.Port.Pipe
import GroundLink.Proofs.Link.Elsewhere
import GroundLink.Proofs.Link.Recording

/-!
# Bytes on their way out

What a channel accepts goes through two places, the channel's queue and the
chunk that its link has at hand, before the endpoint takes it piece by piece.
`Turn.Conserves` is the balance: what was accepted is what is gone, then the
chunk, then the queue.  A byte is gone when the endpoint took it, or when it was
in a chunk that was given up after a failed write.

* `Move.conserves`, `Move.tidy` — the moves of the link itself keep the balance;
* `Sound.flow_act` — so does everything else that happens, but for what the
  channel accepts;
* `Sound.silent_run` — a link that has lost its channel writes nothing more.

The balance is about the time in which the link holds its channel.
-/

namespace GroundLink

/-- A write takes no more than it is offered. -/
class LawfulEndpoint (ε : Type) [Endpoint ε] : Prop where
  write_le : ∀ {e e' : ε} {bytes : Bytes} {n : Nat},
    Endpoint.write e bytes = (e', .ok n) → n ≤ bytes.length

instance : LawfulEndpoint Pipe where
  write_le {p p' bytes n} h := by
    have hwrite : p.write bytes = (p', .ok n) := h
    have hle := p.accepts_le bytes.length
    unfold Pipe.write at hwrite
    split at hwrite
    · cases hwrite
    · dsimp only at hwrite
      split at hwrite
      · cases hwrite
        exact Nat.zero_le _
      · split at hwrite
        · cases hwrite
        · cases hwrite
          exact hle

namespace Recorded

variable {ε : Type}

/-- What the endpoint took in one write. -/
def taken : Bytes × Except Fault Nat → Bytes
  | (offered, .ok n) => offered.take n
  | (_, .error _) => []

/-- What the link was rid of in one write: what the endpoint took, or, if the
link goes on after a failed write, all that it had at hand. -/
def rid (tolerant : Bool) : Bytes × Except Fault Nat → Bytes
  | (offered, .ok n) => offered.take n
  | (offered, .error _) => if tolerant then offered else []

/-- All bytes written. -/
def written (e : Recorded ε) : Bytes := e.writes.flatMap taken

/-- All bytes written or given up, in the order in which the link was rid of
them. -/
def gone (tolerant : Bool) (e : Recorded ε) : Bytes :=
  e.writes.flatMap (rid tolerant)

/-- Whether no write has failed. -/
def Flawless (e : Recorded ε) : Prop := ∀ write ∈ e.writes, ∃ n, write.2 = .ok n

/-- Without failed writes nothing is given up. -/
theorem Flawless.gone_eq {e : Recorded ε} (h : e.Flawless) (tolerant : Bool) :
    e.gone tolerant = e.written := by
  have hsame : ∀ write ∈ e.writes, rid tolerant write = taken write := by
    intro write hwrite
    obtain ⟨n, hn⟩ := h write hwrite
    obtain ⟨offered, answer⟩ := write
    obtain rfl : answer = .ok n := hn
    rfl
  exact List.flatMap_congr hsame

end Recorded

namespace Turn

variable {ε : Type} {chunk : Nat}

/-- What the link has at hand is one chunk at most, and its counter is right. -/
structure Tidy (chunk : Nat) (t : Turn (Recorded ε)) : Prop where
  pending : t.link.pending.length ≤ chunk
  bytesOut : t.link.stats.bytesOut = t.endpoint.written.length

/-- The balance: what was accepted is what is gone, then the chunk at hand, then
what waits on the channel. -/
def Conserves (accepted : Bytes) (t : Turn (Recorded ε)) : Prop :=
  accepted = t.endpoint.gone (! t.link.policy.exitOnError) ++
    (t.link.pending ++ t.board.pool.waiting t.link.channel)

/-- Only the chunk, the count of bytes and the record of writes matter. -/
theorem Tidy.of_same {t t' : Turn (Recorded ε)} (h : Tidy chunk t)
    (hpending : t'.link.pending = t.link.pending)
    (hbytes : t'.link.stats.bytesOut = t.link.stats.bytesOut)
    (hwrites : t'.endpoint.writes = t.endpoint.writes) : Tidy chunk t' := by
  refine ⟨hpending ▸ h.pending, ?_⟩
  unfold Recorded.written
  rw [hbytes, hwrites, h.bytesOut]
  rfl

/-- Only the policy, the chunk, the record of writes and the channel matter. -/
theorem Conserves.of_same {accepted : Bytes} {t t' : Turn (Recorded ε)}
    (h : Conserves accepted t) (hpolicy : t'.link.policy = t.link.policy)
    (hpending : t'.link.pending = t.link.pending)
    (hwrites : t'.endpoint.writes = t.endpoint.writes)
    (hwaiting : t'.board.pool.waiting t'.link.channel =
      t.board.pool.waiting t.link.channel) :
    Conserves accepted t' := by
  unfold Conserves Recorded.gone at h ⊢
  rw [hpolicy, hpending, hwrites, hwaiting]
  exact h

variable [Endpoint ε]

/-- What one write adds to the record. -/
theorem write_recorded {e e' : Recorded ε} {bytes : Bytes}
    {answer : Except Fault Nat} (h : Endpoint.write e bytes = (e', answer)) :
    e'.writes = e.writes ++ [(bytes, answer)] ∧
      Endpoint.write e.port bytes = (e'.port, answer) := by
  obtain ⟨rfl, rfl⟩ := Prod.mk.inj h
  exact ⟨rfl, rfl⟩

/-- **One move** keeps the link tidy. -/
theorem Move.tidy [LawfulEndpoint ε] {t t' : Turn (Recorded ε)}
    (hmove : Move chunk t t') (h : Tidy chunk t) : Tidy chunk t' := by
  cases hmove with
  | count kept => exact h.of_same rfl (kept _) rfl
  | refill =>
      unfold Turn.refill
      split
      · exact ⟨Pool.length_drain_le _ _ _, h.bytesOut⟩
      · exact h
  | @write e n held answer =>
      obtain ⟨hwrites, hport⟩ := write_recorded answer
      have hle := LawfulEndpoint.write_le hport
      refine ⟨?_, ?_⟩
      · have hlen := h.pending
        simp only [wrote, Turn.count, List.length_drop]
        omega
      · have hbytes := h.bytesOut
        simp only [wrote, Turn.count, Recorded.written, hwrites,
          List.flatMap_append, List.length_append] at hbytes ⊢
        simp [hbytes, Recorded.taken, hle]
  | @fault e fault held answer =>
      obtain ⟨hwrites, _⟩ := write_recorded answer
      have hsame : e.written = t.endpoint.written := by
        simp [Recorded.written, hwrites, Recorded.taken]
      unfold writeFailed
      dsimp only
      split
      · exact ⟨h.pending, h.bytesOut.trans (congrArg List.length hsame.symm)⟩
      · exact ⟨Nat.zero_le _,
          h.bytesOut.trans (congrArg List.length hsame.symm)⟩
  | _ => exact h.of_same rfl rfl rfl

/-- **One move** keeps the balance. -/
theorem Move.conserves {accepted : Bytes} {t t' : Turn (Recorded ε)}
    (hmove : Move chunk t t') (hsound : t.board.pool.Sound)
    (h : Conserves accepted t) : Conserves accepted t' := by
  cases hmove with
  | flag active =>
      exact h.of_same rfl rfl rfl (t.board.pool.waiting_setClaimActive ..)
  | refill =>
      unfold Turn.refill
      split
      · next hempty =>
          -- the chunk is taken off the front of what waits
          have hnone : t.link.pending = [] := List.isEmpty_iff.mp hempty
          have hdrain := hsound.waiting_drain t.link.channel chunk
          unfold Conserves at h ⊢
          rw [hnone, List.nil_append, hdrain] at h
          exact h
      · exact h
  | @write e n held answer =>
      obtain ⟨hwrites, _⟩ := write_recorded answer
      unfold Conserves Recorded.gone at h ⊢
      rw [h]
      simp only [wrote, Turn.count, hwrites, Recorded.rid, List.flatMap_append,
        List.flatMap_cons, List.flatMap_nil, List.append_nil, List.append_assoc,
        Link.channel]
      rw [← List.append_assoc (t.link.pending.take n), List.take_append_drop]
  | @fault e fault held answer =>
      obtain ⟨hwrites, _⟩ := write_recorded answer
      unfold Conserves Recorded.gone at h ⊢
      rw [h]
      unfold writeFailed
      dsimp only
      split
      · next hexit =>
          simp [Turn.count] at hexit
          simp [Turn.count, hwrites, Recorded.rid, hexit, Link.channel]
      · next hexit =>
          simp [Turn.count] at hexit
          simp [Turn.count, hwrites, Recorded.rid, hexit, Link.channel]
  | _ => exact h.of_same rfl rfl rfl rfl

/-! ## The link's own work -/

/-- Tidy, and in balance as long as the link holds its channel. -/
structure Flow (chunk : Nat) (accepted : Bytes) (t : Turn (Recorded ε)) :
    Prop where
  tidy : Tidy chunk t
  balance : t.board.pool.holds t.link.claim = true → Conserves accepted t

/-- **One move** keeps the balance as long as it is kept at all. -/
theorem Move.flow [LawfulEndpoint ε] {accepted : Bytes}
    {t t' : Turn (Recorded ε)} (hmove : Move chunk t t')
    (hsound : t.board.pool.Sound) (h : Flow chunk accepted t) :
    Flow chunk accepted t' := by
  refine ⟨hmove.tidy h.tidy, ?_⟩
  intro held
  rw [hmove.holds, hmove.since.claim] at held
  exact hmove.conserves hsound (h.balance held)

omit [Endpoint ε] in
/-- A signature moves no byte. -/
theorem Flow.sign {accepted : Bytes} {t : Turn (Recorded ε)}
    (h : Flow chunk accepted t) :
    Flow chunk accepted t.sign := by
  refine ⟨h.tidy.of_same rfl rfl rfl, ?_⟩
  intro held
  have hbefore : t.board.pool.holds t.link.claim = true :=
    (t.board.pool.holds_setOwner _ _ _).symm.trans held
  exact (h.balance hbefore).of_same rfl rfl rfl
    (t.board.pool.waiting_setOwner _ _ _)

omit [Endpoint ε] in
/-- A link that has ended holds nothing, so that there is nothing to balance. -/
theorem Flow.release {accepted : Bytes} {t : Turn (Recorded ε)}
    (h : Flow chunk accepted t) :
    Flow chunk accepted t.release := by
  by_cases hlive : t.link.state = .terminated
  · rwa [release_of_past hlive]
  · refine ⟨h.tidy.of_same (by simp) (by simp) (by simp), ?_⟩
    intro held
    rw [holds_release hlive] at held
    cases held

omit [Endpoint ε] in
/-- A link that leaves writes nothing more. -/
theorem Flow.leave {accepted : Bytes} {t : Turn (Recorded ε)}
    (h : Flow chunk accepted t) (exit : Exit) (cue : Cue) :
    Flow chunk accepted (t.leave exit cue).1 :=
  ⟨⟨h.release.tidy.pending, h.release.tidy.bytesOut⟩, h.release.balance⟩

/-- **A stretch of the link's own work** keeps the balance. -/
theorem Flow.resume [LawfulEndpoint ε] {accepted : Bytes}
    {t : Turn (Recorded ε)} {config : LinkConfig}
    (h : Flow config.writeChunk accepted t) (hsound : t.board.pool.Sound)
    (cue : Cue) (stand : Stand) :
    Flow config.writeChunk accepted (t.resume config cue stand).1 := by
  have hboth := resume_keep
      (P := fun a => a.board.pool.Sound ∧ Flow config.writeChunk accepted a)
    config cue stand ?_ ?_ ⟨hsound.setOwner _ _, h.sign⟩ ⟨hsound, h⟩
  · exact hboth.2
  · intro a b hmove ⟨hsound, hflow⟩
    exact ⟨hmove.since.sound hsound, hmove.flow hsound hflow⟩
  · intro a exit ⟨hsound, hflow⟩
    exact ⟨(since_release a).sound hsound, hflow.leave exit cue⟩

/-! ## After the loss of the channel -/

section

variable {t t' : Turn (Recorded ε)}

/-- A link that has lost its channel writes nothing. -/
theorem Move.silent (hmove : Move chunk t t')
    (hlost : t.board.pool.holds t.link.claim = false) :
    t'.board.pool.holds t'.link.claim = false ∧
    t'.endpoint.writes = t.endpoint.writes := by
  refine ⟨?_, ?_⟩
  · rw [hmove.holds, hmove.since.claim, hlost]
  · cases hmove with
    | write held => cases hlost.symm.trans held
    | fault held => cases hlost.symm.trans held
    | refill held => cases hlost.symm.trans held
    | _ => rfl

omit [Endpoint ε] in
/-- A link without its channel does not get it back at its end. -/
theorem release_silent (hlost : t.board.pool.holds t.link.claim = false) :
    t.release.board.pool.holds t.release.link.claim = false := by
  by_cases hlive : t.link.state = .terminated
  · rw [release_of_past hlive, hlost]
  · exact holds_release hlive

/-- A link without its channel writes nothing. -/
theorem resume_silent (hlost : t.board.pool.holds t.link.claim = false)
    (config : LinkConfig) (cue : Cue) (stand : Stand) :
    (t.resume config cue stand).1.endpoint.writes = t.endpoint.writes := by
  have hsign : t.sign.board.pool.holds t.sign.link.claim = false :=
    (t.board.pool.holds_setOwner _ _ _).trans hlost
  have hboth :=
    resume_keep (P := fun a => a.board.pool.holds a.link.claim = false ∧
    a.endpoint.writes = t.endpoint.writes) config cue stand ?_ ?_ ⟨hsign, rfl⟩
      ⟨hlost, rfl⟩
  · exact hboth.2
  · intro a b hmove ⟨hlost, hsame⟩
    obtain ⟨hlost', hsame'⟩ := hmove.silent hlost
    exact ⟨hlost', hsame'.trans hsame⟩
  · intro a exit ⟨hlost, hsame⟩
    exact ⟨release_silent hlost,
      (congrArg Recorded.writes (endpoint_leave exit cue a)).trans hsame⟩

end

end Turn

namespace Traffic

variable {ε : Type}

/-- What channel `i` accepts in an act. -/
def accepted (w : Traffic ε) (i : Nat) : Act ε → Bytes
  | .ask op => w.downlink.accepted i op
  | _ => []

/-- What channel `i` accepts in acts one after the other. -/
def acceptedOver [Endpoint ε] (i : Nat) : Traffic ε → List (Act ε) → Bytes
  | _, [] => []
  | w, a :: acts => w.accepted i a ++ acceptedOver i (w.act a) acts

/-- Only requests bring bytes to a channel. -/
theorem accepted_of_not_ask {a : Act ε} (h : ∀ op, a ≠ .ask op) (w : Traffic ε)
    (i : Nat) :
    w.accepted i a = [] := by
  cases a with
  | ask op => exact absurd rfl (h op)
  | _ => rfl

/-- Whatever others do, what counts for a link is what waits on its channel
while the link holds it. -/
theorem flow_elsewhere {c : Course (Recorded ε)} {b b' : Board} {chunk : Nat}
    {sofar extra : Bytes} (h : (c.turn b).Flow chunk sofar)
    (hpool : b'.pool.holds c.link.claim = true →
      b.pool.holds c.link.claim = true ∧
      b'.pool.waiting c.link.channel = b.pool.waiting c.link.channel ++ extra) :
    (c.turn b').Flow chunk (sofar ++ extra) := by
  refine ⟨h.tidy.of_same rfl rfl rfl, ?_⟩
  intro held
  obtain ⟨hbefore, hwaiting⟩ := hpool held
  have hbalance := h.balance hbefore
  unfold Turn.Conserves at hbalance ⊢
  have hrest : (c.turn b').board.pool.waiting (c.turn b').link.channel =
      (c.turn b).board.pool.waiting (c.turn b).link.channel ++ extra := hwaiting
  rw [hrest, hbalance]
  simp only [List.append_assoc]
  rfl

/-- The balance of a link needs the board only for what waits on its channel. -/
theorem flow_of_waiting {c : Course (Recorded ε)} {b b' : Board} {chunk : Nat}
    {sofar : Bytes} (h : (c.turn b).Flow chunk sofar)
    (hpool : b'.pool.holds c.link.claim = true → b.pool.holds c.link.claim =
      true ∧ b'.pool.waiting c.link.channel = b.pool.waiting c.link.channel) :
    (c.turn b').Flow chunk sofar := by
  have hflow : (c.turn b').Flow chunk (sofar ++ []) := by
    apply flow_elsewhere h
    rw [List.append_nil]
    exact hpool
  rwa [List.append_nil] at hflow

variable [Endpoint ε]

/-- The link's own work keeps the balance. -/
theorem work_flow [LawfulEndpoint ε] {k : Nat} {c : Course (Recorded ε)}
    {b : Board} {a : Act ε} {t : Turn (Recorded ε)} {stand : Stand}
    (hwork : Work k c b a.recorded t stand) (hsound : b.pool.Sound)
    {sofar : Bytes} (h : (c.turn b).Flow c.config.writeChunk sofar) :
    t.Flow c.config.writeChunk sofar := by
  cases a with
  | connect => cases hwork
  | resume k cue =>
      cases hwork
      exact h.resume hsound cue c.stand
  | drop k =>
      cases hwork
      exact h.release
  | far k f =>
      cases hwork
      exact ⟨h.tidy.of_same rfl rfl rfl, fun held =>
          (h.balance held).of_same rfl rfl rfl rfl⟩
  | ask op => cases hwork

/-- **One act** keeps the balance of link `k`: what its channel accepts comes on
top, and nothing else that happens makes a difference. -/
theorem Sound.flow_act [LawfulEndpoint ε] {w : Traffic (Recorded ε)}
    (h : w.Sound) {k : Nat} {c : Course (Recorded ε)}
    (hk : w.courses[k]? = some c) {sofar : Bytes}
    (hflow : (c.turn w.board).Flow c.config.writeChunk sofar) (a : Act ε)
    (hdrain : ∀ n, a ≠ .ask (.drain c.link.channel n)) :
    ∃ c', (w.act a.recorded).courses[k]? = some c' ∧ c.Becomes c' ∧
      (c'.turn (w.act a.recorded).board).Flow c'.config.writeChunk
        (sofar ++ w.accepted c.link.channel a.recorded) := by
  obtain ⟨c', hk', hbecomes⟩ := becomes_act hk a.recorded
  refine ⟨c', hk', hbecomes, ?_⟩
  have hbefore := h.held_before hk (a := a.recorded)
  rcases h.holder_cases hk a.recorded with
      ⟨t, stand, hwork, heq⟩ | ⟨hask, hsame, hchannel⟩ |
    ⟨op, ha, heq⟩
  · rw [accepted_of_not_ask (work_not_ask hwork), List.append_nil]
    rw [heq, courses_commit hk, if_pos rfl] at hk'
    obtain rfl := Option.some.inj hk'
    rw [heq]
    exact work_flow hwork h.pool hflow
  · rw [accepted_of_not_ask hask, List.append_nil]
    obtain rfl := Option.some.inj (hsame.symm.trans hk')
    refine flow_of_waiting hflow ?_
    intro hafter
    have hheld := hbefore hafter
    exact ⟨hheld, (hchannel hheld).waiting⟩
  · have hop : a = .ask op := by
      cases a <;> simp [Act.recorded] at ha
      rw [ha]
    rw [heq] at hk' hbefore ⊢
    rw [ha]
    obtain rfl := Option.some.inj (hk.symm.trans hk')
    refine flow_elsewhere hflow ?_
    intro hafter
    have hnot : ∀ n, op ≠ .drain c.link.claim.index n := by
      intro n heqop
      exact hdrain n (by rw [hop, heqop]; rfl)
    exact ⟨hbefore hafter, Downlink.waiting_perform h.pool hnot hafter⟩

/-- **Any acts in any order** keep the balance of link `k`. -/
theorem Sound.flow_run [LawfulEndpoint ε] {w : Traffic (Recorded ε)}
    (h : w.Sound) {k : Nat} {c : Course (Recorded ε)}
    (hk : w.courses[k]? = some c) {sofar : Bytes}
    (hflow : (c.turn w.board).Flow c.config.writeChunk sofar)
    (acts : List (Act ε))
    (hdrain : ∀ n, .ask (.drain c.link.channel n) ∉ acts) :
    ∃ c', (w.run (acts.map Act.recorded)).courses[k]? = some c' ∧ c.Becomes c' ∧
      (c'.turn (w.run (acts.map Act.recorded)).board).Flow c'.config.writeChunk
        (sofar ++ acceptedOver c.link.channel w (acts.map Act.recorded)) := by
  induction acts generalizing w c sofar with
  | nil => exact ⟨c, hk, .refl c, by
      rw [List.map_nil, acceptedOver, List.append_nil]; exact hflow⟩
  | cons a acts ih =>
      have ha : ∀ n, a ≠ .ask (.drain c.link.channel n) := by
        intro n heq
        exact hdrain n (List.mem_cons.mpr (Or.inl heq.symm))
      obtain ⟨c₁, hk₁, hbecomes, hflow₁⟩ := h.flow_act hk hflow a ha
      have hchannel : c₁.link.channel = c.link.channel :=
        congrArg Claim.index hbecomes.claim
      have hacts : ∀ n, .ask (.drain c₁.link.channel n) ∉ acts := by
        intro n hmem
        rw [hchannel] at hmem
        exact hdrain n (List.mem_cons_of_mem a hmem)
      obtain ⟨c', hk', hbecomes', hflow'⟩ :=
        ih (h.act a.recorded) hk₁ hflow₁ hacts
      refine ⟨c', hk', hbecomes.trans hbecomes', ?_⟩
      rw [hchannel, List.append_assoc] at hflow'
      exact hflow'

/-- **A link that has lost its channel writes nothing more**, whatever
happens. -/
theorem Sound.silent_run {w : Traffic (Recorded ε)} (h : w.Sound) {k : Nat}
    {c : Course (Recorded ε)} (hk : w.courses[k]? = some c)
    (hlost : w.downlink.pool.holds c.link.claim = false) (acts : List (Act ε)) :
    ∃ c', (w.run (acts.map Act.recorded)).courses[k]? = some c' ∧
      c'.endpoint.writes = c.endpoint.writes := by
  induction acts generalizing w c with
  | nil => exact ⟨c, hk, rfl⟩
  | cons a acts ih =>
      have hstep : ∃ c₁, (w.act a.recorded).courses[k]? = some c₁ ∧
          c₁.link.claim = c.link.claim ∧
          c₁.endpoint.writes = c.endpoint.writes := by
        rcases course_act hk a.recorded with hsame | ⟨t, stand, hwork, _, hk₁⟩
        · exact ⟨c, hsame, rfl, rfl⟩
        · refine ⟨c.after t stand, hk₁, (work_since hwork).claim, ?_⟩
          cases a with
          | connect => cases hwork
          | resume k cue =>
              cases hwork
              exact Turn.resume_silent (t := c.turn w.board) hlost c.config
                cue c.stand
          | drop k =>
              cases hwork
              exact congrArg Recorded.writes
                (Turn.endpoint_release (c.turn w.board))
          | far k f =>
              cases hwork
              rfl
          | ask op => cases hwork
      obtain ⟨c₁, hk₁, hclaim, hwrites⟩ := hstep
      have hlost₁ := h.lost_run hk hlost [a.recorded]
      rw [← hclaim] at hlost₁
      obtain ⟨c', hk', hwrites'⟩ := ih (h.act a.recorded) hk₁ hlost₁
      exact ⟨c', hk', hwrites'.trans hwrites⟩

/-- A link that has been connected a moment ago has nothing in balance yet. -/
theorem Sound.flow_connect {w : Traffic (Recorded ε)} (h : w.Sound)
    {name : String} {policy : Policy} {config : LinkConfig} {now : Nat}
    {endpoint : ε} {c : Course (Recorded ε)}
    (hc :
      (w.act (.recorded (.connect name policy config now endpoint))).courses[
        w.courses.length]? = some c) :
    c.config = config ∧ c.link.policy = policy ∧
      (c.turn
        (w.act
          (.recorded (.connect name policy config now endpoint))).board).Flow
        config.writeChunk [] := by
  obtain ⟨pool, claim, hclaim, rfl, hboard⟩ := act_connect hc
  obtain ⟨_, _, _, s, hs, _, _, hempty⟩ := h.fresh hclaim
  have hwaiting : pool.waiting claim.index = [] := by
    unfold Pool.waiting
    rw [hs, Option.map_some, Option.getD_some, hempty]
  refine ⟨rfl, rfl, ⟨Nat.zero_le _, rfl⟩, ?_⟩
  intro _
  rw [Act.recorded, hboard]
  exact hwaiting.symm

end Traffic

/-- Traffic that is recorded from the start on. -/
def Traffic.recorded {ε : Type} [Endpoint ε] (d : Downlink)
    (acts : List (Act ε)) :
    Traffic (Recorded ε) :=
  (Traffic.start d).run (acts.map Act.recorded)

/-- **Nothing is lost on the way out.**  Take a link that is connected at some
time, and let anything happen then in any order, except that somebody else is
handed bytes of its channel.  While the link holds its channel, what the channel
has accepted since is what was written or was in a chunk given up after a failed
write, then the chunk at hand, then what waits on the channel; and if no write
has failed, it is what was written, then the chunk, then what waits.
Throughout, a chunk is no longer than the settings say, and the counter of bytes
is the number of bytes written.  Once the link has lost its channel, it writes
nothing more.  The record that tells all this changes nothing. -/
theorem accepted_eq_gone_pending_waiting {ε : Type} [Endpoint ε]
    [LawfulEndpoint ε] {channels queueCapacity : Nat} {d : Downlink}
    (hcreate : Pool.create? channels queueCapacity = some d.pool)
    (before after : List (Act ε)) (name : String) (policy : Policy)
    (config : LinkConfig) (now : Nat) (endpoint : ε) {c₀ : Course (Recorded ε)}
    (hc₀ :
      (Traffic.recorded d
        (before ++ [Act.connect name policy config now endpoint])).courses[
          (Traffic.recorded d before).courses.length]? = some c₀)
    (hdrain : ∀ n, .ask (.drain c₀.link.channel n) ∉ after) :
    let k := (Traffic.recorded d before).courses.length
    let w₀ :=
      Traffic.recorded d
        (before ++ [Act.connect name policy config now endpoint])
    let w := w₀.run (after.map Act.recorded)
    w.bare = (Traffic.start d).run
        (before ++ [Act.connect name policy config now endpoint] ++ after) ∧
      ∃ c, w.courses[k]? = some c ∧ c.link.claim = c₀.link.claim ∧
        c.link.pending.length ≤ config.writeChunk ∧
        c.link.stats.bytesOut = c.endpoint.written.length ∧
        (w.downlink.pool.holds c.link.claim = true →
          let accepted :=
            Traffic.acceptedOver c.link.channel w₀ (after.map Act.recorded)
          accepted = c.endpoint.gone (! policy.exitOnError) ++
              (c.link.pending ++ w.downlink.pool.waiting c.link.channel) ∧
            (c.endpoint.Flawless → accepted = c.endpoint.written ++
              (c.link.pending ++ w.downlink.pool.waiting c.link.channel))) ∧
        (w.downlink.pool.holds c.link.claim = false → ∀ more : List (Act ε),
          ∃ c', (w.run (more.map Act.recorded)).courses[k]? = some c' ∧
            c'.endpoint.writes = c.endpoint.writes) := by
  intro k w₀ w
  have hbefore : (Traffic.recorded d before).Sound :=
    (Traffic.sound_start hcreate).run _
  have hw₀ : w₀ = (Traffic.recorded d before).act
      (.recorded (.connect name policy config now endpoint)) := by
    simp only [w₀, Traffic.recorded, List.map_append, Traffic.run_append]
    rfl
  have hsound : w₀.Sound := (Traffic.sound_start hcreate).run _
  have hc : w₀.courses[k]? = some c₀ := hc₀
  rw [hw₀] at hc
  obtain ⟨hconfig, hpolicy, hflow⟩ := hbefore.flow_connect hc
  rw [← hw₀] at hc hflow
  rw [← hconfig] at hflow
  obtain ⟨c, hk, hbecomes, hflow'⟩ := hsound.flow_run hc hflow after hdrain
  have hchannel : c.link.channel = c₀.link.channel :=
    congrArg Claim.index hbecomes.claim
  rw [List.nil_append, ← hchannel] at hflow'
  refine ⟨?_, c, hk, hbecomes.claim, ?_, hflow'.tidy.bytesOut, ?_, ?_⟩
  · simp only [w, w₀, Traffic.recorded]
    rw [Traffic.bare_run, Traffic.bare_run, ← Traffic.run_append]
    rfl
  · have hpending := hflow'.tidy.pending
    rw [hbecomes.config, hconfig] at hpending
    exact hpending
  · intro held accepted
    have hbalance : accepted = c.endpoint.gone (! c.link.policy.exitOnError) ++
        (c.link.pending ++ w.downlink.pool.waiting c.link.channel) :=
      hflow'.balance held
    rw [hbecomes.policy, hpolicy] at hbalance
    refine ⟨hbalance, ?_⟩
    intro hflawless
    rw [hbalance, hflawless.gone_eq]
  · intro hlost more
    exact (hsound.run _).silent_run hk hlost more

/-- A link of the default policy that takes four bytes at a time. -/
def stalling : Act Pipe := .connect "out" {} { writeChunk := 4 } 0 ({} : Pipe)

/-- It begins and is sent two bytes, and then six.  Its endpoint takes the first
two, fails, and takes nothing any more; then it is sent one more. -/
def stallingActs : List (Act Pipe) :=
  [.resume 0 ⟨1, .ok (), none⟩, .resume 0 ⟨1, .ok (), none⟩,
    .ask (.setActive 0 true), .ask (.publish [1, 2]),
    .resume 0 ⟨2, .ok (), none⟩, .ask (.publish [3, 4, 5, 6, 7, 8]),
    .far 0 ({ · with failWrites := true }), .resume 0 ⟨3, .ok (), none⟩,
    .far 0 ({ · with failWrites := false, writeLimit := some 0 }),
    .resume 0 ⟨4, .ok (), none⟩, .ask (.publish [9])]

/-- What has become of it then. -/
def stalled : Traffic (Recorded Pipe) :=
  (Traffic.recorded (.single 8) [stalling]).run (stallingActs.map Act.recorded)

/-- Two bytes are written, the next four are given up when a write fails, two
are at hand while the endpoint takes nothing, and one waits. -/
theorem stalled_accepted :
    ∃ c, stalled.courses[0]? = some c ∧
      stalled.downlink.pool.holds c.link.claim = true ∧
      c.endpoint.gone true = [1, 2, 3, 4, 5, 6] ∧ c.endpoint.written = [1, 2] ∧
      c.link.pending = [7, 8] ∧
      Traffic.acceptedOver 0 (Traffic.recorded (.single 8) [stalling])
          (stallingActs.map Act.recorded) =
        c.endpoint.gone true ++
          (c.link.pending ++ stalled.downlink.pool.waiting 0) := by
  have hcreate : Pool.create? 1 8 = some (Downlink.single 8).pool := rfl
  have hdrain : ∀ n, Act.ask (.drain 0 n) ∉ stallingActs := by
    intro n
    simp [stallingActs]
  have hvalues :
      stalled.courses[0]?.map
        (fun c => (c.link.claim, c.endpoint.gone true, c.endpoint.written,
          c.link.pending)) =
        some (⟨0, 1⟩, [1, 2, 3, 4, 5, 6], [1, 2], [7, 8]) := rfl
  have hheld : stalled.downlink.pool.holds ⟨0, 1⟩ = true := rfl
  obtain ⟨_, c, hc, _, _, _, hbalance, _⟩ :=
    accepted_eq_gone_pending_waiting hcreate []
    stallingActs "out" {} { writeChunk := 4 } 0 ({} : Pipe) rfl hdrain
  have hcourse : stalled.courses[0]? = some c := hc
  rw [hcourse] at hvalues
  simp only [Option.map_some, Option.some.injEq, Prod.mk.injEq] at hvalues
  obtain ⟨hclaim, hgone, hwritten, hpending⟩ := hvalues
  rw [← hclaim] at hheld
  have hchannel : c.link.channel = 0 := congrArg Claim.index hclaim
  obtain ⟨haccepted, _⟩ := hbalance hheld
  rw [hchannel] at haccepted
  exact ⟨c, hcourse, hheld, hgone, hwritten, hpending, haccepted⟩

end GroundLink
