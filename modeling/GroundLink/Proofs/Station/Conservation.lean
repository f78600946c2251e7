import GroundLink.Proofs.Channel.Conservation
import GroundLink.Proofs.Station.Mirror

/-!
# No byte is lost without being counted

Links take bytes from their channels, set flags and give channels back; what
they do there, anybody could ask of the downlink.  So a run of all traffic is,
for the channels, a run of requests (`Traffic.requests_run`), in which nobody
sends but who is asked to send, and a run of a station is one too.  What holds
of bytes over any run of requests (`Downlink.Conserves`) holds of them, and what
a station reports as dropped is all that any channel has refused since the
station was made: `published_bytes_conserved`.
-/

namespace GroundLink

/-- Whether a request can put bytes on the channels. -/
def Downlink.Op.isSend : Op → Bool
  | .publish _ | .sendFrame _ | .send .. | .sendHeartbeat ..
  | .sendStatusText .. => true
  | _ => false

/-- What is asked of the downlink. -/
def Act.request? {ε : Type} : Act ε → Option Downlink.Op
  | .ask op => some op
  | _ => none

/-- `p'` comes of `p` by requests that send nothing. -/
def Pool.Served (p p' : Pool) : Prop :=
  ∃ ops : List Downlink.Op, ops.filter Downlink.Op.isSend = [] ∧
    ∀ publisher, (⟨p, publisher⟩ : Downlink).run ops = ⟨p', publisher⟩

namespace Pool

variable {p p' : Pool}

theorem Served.refl (p : Pool) : p.Served p := ⟨[], rfl, fun _ => rfl⟩

/-- What is served by one run of requests and then by another is served by both
in a row. -/
theorem Served.trans {p₁ p₂ p₃ : Pool} (h₁₂ : p₁.Served p₂)
    (h₂₃ : p₂.Served p₃) :
    p₁.Served p₃ := by
  obtain ⟨ops, hquiet, hops⟩ := h₁₂
  obtain ⟨more, hquiet', hmore⟩ := h₂₃
  refine ⟨ops ++ more, ?_, ?_⟩
  · rw [List.filter_append, hquiet, hquiet', List.append_nil]
  · intro publisher
    rw [Downlink.run_append, hops, hmore]

/-- A signature is a request. -/
theorem served_setOwner (p : Pool) (i : Nat) (name : String) :
    p.Served (p.setOwner i name) :=
  ⟨[.setOwner i name], rfl, fun _ => rfl⟩

/-- The flag of a channel is set by a request. -/
theorem served_setClaimActive (p : Pool) (c : Claim) (active : Bool) :
    p.Served (p.setClaimActive c active).1 :=
  ⟨[.setClaimActive c active], rfl, fun _ => rfl⟩

/-- A drain is a request. -/
theorem served_drain (p : Pool) (i n : Nat) : p.Served (p.drain i n).1 :=
  ⟨[.drain i n], rfl, fun _ => rfl⟩

/-- A channel is given back by a request. -/
theorem served_releaseClaim (p : Pool) (c : Claim) :
    p.Served (p.releaseClaim c).1 :=
  ⟨[.releaseClaim c], rfl, fun _ => rfl⟩

/-- A channel is taken by a request. -/
theorem served_claim (p : Pool) :
    p.Served p.claim.1 := ⟨[.claim], rfl, fun _ => rfl⟩

end Pool

namespace Turn

variable {ε : Type}

/-- A link that ends gives its channel back by one request, or has done so
before. -/
theorem served_release (t : Turn ε) :
    t.board.pool.Served t.release.board.pool := by
  by_cases hpast : t.link.state = .terminated
  · rw [release_of_past hpast]
    exact .refl _
  · rw [pool_release hpast]
    exact t.board.pool.served_releaseClaim _

variable [Endpoint ε] {chunk : Nat}

/-- Every move of a link asks at most one thing of the pool. -/
theorem Move.served {t t' : Turn ε} (hmove : Move chunk t t') :
    t.board.pool.Served t'.board.pool := by
  rcases hmove.pool_cases with heq | ⟨active, heq⟩ | ⟨_, heq⟩
  · rw [heq]
    exact .refl _
  · rw [heq]
    exact t.board.pool.served_setClaimActive _ active
  · rw [heq]
    exact t.board.pool.served_drain _ _

/-- **A stretch of work** is requests of the link. -/
theorem served_resume (config : LinkConfig) (cue : Cue) (stand : Stand)
    (t : Turn ε) :
    t.board.pool.Served (t.resume config cue stand).1.board.pool := by
  refine resume_keep (P := fun a => t.board.pool.Served a.board.pool) config cue
    stand ?_ ?_ ?_ ?_
  · intro a b hmove hsofar
    exact hsofar.trans hmove.served
  · intro a exit hsofar
    exact hsofar.trans a.served_release
  · exact t.board.pool.served_setOwner _ _
  · exact .refl _

end Turn

namespace Traffic

variable {ε : Type} [Endpoint ε] (w : Traffic ε)

/-- **An act** is requests, and only those that are asked for send anything. -/
theorem requests_act (a : Act ε) :
    ∃ ops, (w.act a).downlink = w.downlink.run ops ∧
      ops.filter Downlink.Op.isSend =
        a.request?.toList.filter Downlink.Op.isSend := by
  have hserved : ∀ {pool : Pool}, w.downlink.pool.Served pool → ∃ ops,
      ({ w.downlink with pool } : Downlink) = w.downlink.run ops ∧
        ops.filter Downlink.Op.isSend = [] := by
    rintro pool ⟨ops, hquiet, hops⟩
    exact ⟨ops, (hops w.downlink.publisher).symm, hquiet⟩
  rcases w.act_cases a with ⟨hask, hsame⟩ | ⟨k, c, t, stand, _, hwork, heq⟩ |
    ⟨name, policy, config, now, endpoint, pool, claim, rfl, hclaim, heq⟩ | ⟨op,
      rfl, heq⟩
  · refine ⟨[], by rw [hsame]; rfl, ?_⟩
    cases a with
    | ask op => exact absurd rfl (hask op)
    | _ => rfl
  · rw [heq]
    cases hwork with
    | resume cue =>
        exact hserved (Turn.served_resume c.config cue c.stand (c.turn w.board))
    | drop => exact hserved (Turn.served_release (c.turn w.board))
    | far f => exact hserved (.refl _)
  · rw [heq]
    have hpool : w.downlink.pool.claim.1 = pool := congrArg Prod.fst hclaim
    exact hserved (hpool ▸ w.downlink.pool.served_claim)
  · exact ⟨[op], by rw [heq]; rfl, rfl⟩

/-- **Whatever happens** to the channels is a run of requests, and only those
that are asked for send anything. -/
theorem requests_run (acts : List (Act ε)) :
    ∃ ops, (w.run acts).downlink = w.downlink.run ops ∧
      ops.filter Downlink.Op.isSend =
        (acts.filterMap Act.request?).filter Downlink.Op.isSend := by
  induction acts generalizing w with
  | nil => exact ⟨[], rfl, rfl⟩
  | cons a acts ih =>
      obtain ⟨first, hfirst, hsends⟩ := w.requests_act a
      obtain ⟨rest, hrest, hsends'⟩ := ih (w.act a)
      refine ⟨first ++ rest, ?_, ?_⟩
      · rw [run_cons, hrest, hfirst, Downlink.run_append]
      · have hasked : (a :: acts).filterMap Act.request? =
            a.request?.toList ++ acts.filterMap Act.request? := by
          cases a <;> rfl
        rw [List.filter_append, hsends, hsends', hasked, List.filter_append]

end Traffic

/-- **Bytes are conserved.**  Let a downlink be new.

* After any requests every channel has counted all that was published while it
  was active, and all that it has taken in was handed out, waits, or was thrown
  away when the channel was given back (`Downlink.Conserves`).
* Any traffic over it is, for the channels, a run of requests that sends what is
  asked for.
* So is any run of a station that begins with it, and what the station reports
  as dropped is all that its channels have refused. -/
theorem published_bytes_conserved {channels queueCapacity : Nat} {d : Downlink}
    (hcreate : Pool.create? channels queueCapacity = some d.pool) :
    (∀ ops, d.Conserves channels ops) ∧
      (∀ {ε : Type} [Endpoint ε] (acts : List (Act ε)),
        ∃ ops, ((Traffic.start d).run acts).downlink = d.run ops ∧
          ops.filter Downlink.Op.isSend =
            (acts.filterMap Act.request?).filter Downlink.Op.isSend) ∧
      ∀ {config : Config} {handler : Handler} {s : Station},
        Station.create config handler = .ok s → s.downlink = d → ∀ commands,
        ∃ ops, (s.after commands).downlink = d.run ops ∧
          (s.after commands).stats.dropped =
            ((List.range channels).map fun i =>
              (d.stream (Downlink.refused i) ops).length).sum := by
  refine ⟨Downlink.conserves_of_create? hcreate, ?_, ?_⟩
  · intro ε _ acts
    exact (Traffic.start d).requests_run acts
  · rintro config handler s hstation rfl commands
    obtain ⟨visits, _, _, hmirror⟩ := Station.after_mirrored hstation commands
    obtain ⟨ops, hops, _⟩ :=
      (Traffic.start s.downlink).requests_run (visits.map Visit.toAct)
    have hdownlink : (s.after commands).downlink = s.downlink.run ops := by
      rw [← hmirror.downlink, Lobby.traffic_run]
      exact hops
    have hreport : (s.after commands).stats.dropped =
        (s.after commands).downlink.pool.droppedBytes := rfl
    refine ⟨ops, hdownlink, ?_⟩
    rw [hreport, hdownlink]
    exact (Downlink.conserves_of_create? hcreate ops).reported

section

open Downlink

/-- Channel 0 overflows, is drained once and given back with bytes in it; its
next holder gets two bytes more, of which one is handed out. -/
def spill : List Op :=
  [.claim, .setActive 0 true, .publish [1, 2, 3, 4, 5, 6, 7, 8, 9], .drain 0 3,
    .release 0, .claim, .setActive 0 true, .publish [10, 11], .drain 0 1]

/-- The balance of the run `spill`, read off both ways: by the theorem and from
the counters. -/
theorem spill_conserved :
    Pool.create? 2 8 = some (pair 8).pool ∧ (pair 8).Conserves 2 spill ∧
      (pair 8).stream (offered 0) spill = [1, 2, 3, 4, 5, 6, 7, 8, 9, 10, 11] ∧
      (pair 8).stream (refused 0) spill = [8, 9] ∧
      (pair 8).stream (handed 0) spill = [1, 2, 3, 10] ∧
      (pair 8).stream (discarded 0) spill = [4, 5, 6, 7] ∧
      ((pair 8).run spill).pool.stats? 0 = some ⟨9, 4, 2, 1⟩ ∧
      ((pair 8).run spill).pool.droppedBytes = 2 := by
  have hcreate : Pool.create? 2 8 = some (pair 8).pool := rfl
  have hconserves := (published_bytes_conserved hcreate).1 spill
  refine ⟨hcreate, hconserves, ?_, ?_, ?_, ?_, ?_, ?_⟩
  all_goals decide +kernel

end

end GroundLink
