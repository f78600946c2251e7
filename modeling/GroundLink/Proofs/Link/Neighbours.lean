import GroundLink.Link.Concern
import GroundLink.Proofs.Channel.Delivery
import GroundLink.Proofs.Link.Inbound
import GroundLink.Proofs.Link.WritePath

/-!
# Links do not interfere with each other

Two conditions say that a link is its own affair.  What does not concern it
leaves it, its channel and the publisher as they are (`Hosts.aside`); and what
does concern it makes the same of it in any two traffics in which it is the same
(`Hosts.concern`).  Neither asks what else there is: the other links, their
channels, the marks and the count of active links may be as they like.  By
induction on two runs, links that the same things happen to stay the same
(`links_do_not_interfere`).

For the second condition, two turns are `Twin` if they are the same but for the
rest of the board; `Twin.resume` is the stretch of work of a link on either.
-/

namespace GroundLink

namespace Pool

/-- The pools have the same slot at `i`. -/
def EqualAt (i : Nat) (p p' : Pool) : Prop := p'.slots[i]? = p.slots[i]?

variable {i : Nat} {p p' : Pool}

/-- The same change of the same slot comes to the same slot. -/
theorem EqualAt.modify (h : p.EqualAt i p') (f : Slot → Slot) :
    (p.modify i f).EqualAt i (p'.modify i f) := by
  unfold EqualAt
  rw [getElem?_modify, getElem?_modify, h]

/-- A change of another slot is none of this one. -/
theorem equalAt_modify_of_ne (p : Pool) {j : Nat} (hj : j ≠ i)
    (f : Slot → Slot) :
    p.EqualAt i (p.modify j f) := by
  unfold EqualAt
  rw [getElem?_modify, if_neg hj]

/-- Whether a claim holds its channel can be seen at its own slot. -/
theorem EqualAt.holds {c : Claim} (h : p.EqualAt c.index p') :
    p'.holds c = p.holds c := by
  unfold Pool.holds
  rw [h]

/-- The same slot hands out the same bytes. -/
theorem EqualAt.drain (h : p.EqualAt i p') (n : Nat) :
    (p.drain i n).1.EqualAt i (p'.drain i n).1 ∧
    (p'.drain i n).2 = (p.drain i n).2 := by
  refine ⟨?_, ?_⟩
  · rw [drain_eq, drain_eq]
    exact h.modify _
  · unfold Pool.drain
    rw [h]
    cases p.slots[i]? <;> rfl

/-- A claim sets the flag in both pools or in neither. -/
theorem EqualAt.setClaimActive {c : Claim} (h : p.EqualAt c.index p')
    (active : Bool) :
    (p.setClaimActive c active).1.EqualAt c.index
      (p'.setClaimActive c active).1 := by
  rw [setClaimActive_eq, setClaimActive_eq, h.holds]
  split
  · exact h.modify _
  · exact h

/-- Whether a slot may be flagged can be seen there. -/
theorem EqualAt.setActive (h : p.EqualAt i p') (active : Bool) :
    (p.setActive i active).1.EqualAt i (p'.setActive i active).1 := by
  unfold Pool.setActive
  rw [h]
  cases p.slots[i]? with
  | none => exact h
  | some s =>
      dsimp only
      split
      · exact h
      · exact h.modify _

/-- Whether a slot may be freed can be seen there. -/
theorem EqualAt.free (h : p.EqualAt i p') (generation : Option Nat) :
    (p.free i generation).1.EqualAt i (p'.free i generation).1 := by
  have hfreeable : p'.isFreeable i generation = p.isFreeable i generation := by
    unfold isFreeable
    rw [h]
  rw [free_eq, free_eq, hfreeable]
  split
  · exact h.modify _
  · exact h

/-- To free another channel clears that channel's slot and mark. -/
theorem equalAt_free_of_ne (p : Pool) {j : Nat} (hj : j ≠ i)
    (generation : Option Nat) :
    p.EqualAt i (p.free j generation).1 := by
  rw [free_eq]
  split
  · exact p.equalAt_modify_of_ne hj _
  · rfl

/-- A claim on another channel sets the flag there. -/
theorem equalAt_setClaimActive_of_ne (p : Pool) {c : Claim} (hc : c.index ≠ i)
    (active : Bool) :
    p.EqualAt i (p.setClaimActive c active).1 := by
  rw [setClaimActive_eq]
  split
  · exact p.equalAt_modify_of_ne hc _
  · rfl

theorem equalAt_setActive_of_ne (p : Pool) {j : Nat} (hj : j ≠ i)
    (active : Bool) :
    p.EqualAt i (p.setActive j active).1 := by
  rcases setActive_eq p j active with heq | ⟨heq, _⟩
  · rw [heq]
    rfl
  · rw [heq]
    exact p.equalAt_modify_of_ne hj _

/-- A drain takes bytes from its own slot. -/
theorem equalAt_drain_of_ne (p : Pool) {j : Nat} (hj : j ≠ i) (n : Nat) :
    p.EqualAt i (p.drain j n).1 := by
  rw [drain_eq]
  exact p.equalAt_modify_of_ne hj _

end Pool

namespace Turn

variable {ε : Type}

/-- The turns are the same, with the same slot at the link's channel; the rest
of the board may be as it likes. -/
structure Twin (t t' : Turn ε) : Prop where
  link : t'.link = t.link
  endpoint : t'.endpoint = t.endpoint
  events : t'.events = t.events
  slot : t.board.pool.EqualAt t.link.channel t'.board.pool

/-- Two pieces of work that come to the same, with the same answer. -/
def TwinWith {α : Type} (result result' : Turn ε × α) : Prop :=
  Twin result.1 result'.1 ∧ result'.2 = result.2

variable {t t' : Turn ε}

/-- Both results, taken apart at once. -/
theorem TwinWith.split {α : Type} {result result' : Turn ε × α}
    (h : TwinWith result result') :
    ∃ t t' answer, result = (t, answer) ∧ result' = (t', answer) ∧
      Twin t t' := by
  obtain ⟨t, answer⟩ := result
  obtain ⟨t', answer'⟩ := result'
  obtain ⟨htwin, rfl⟩ := h
  exact ⟨t, t', answer', rfl, rfl, htwin⟩

/-- Only the board can be another one. -/
theorem Twin.exists_board (h : Twin t t') : ∃ board, t' = { t with board } := by
  obtain ⟨hlink, hendpoint, hevents, _⟩ := h
  cases t'
  cases hlink
  cases hendpoint
  cases hevents
  exact ⟨_, rfl⟩

/-- A link is evicted on both boards or on neither. -/
theorem Twin.holds (h : Twin t t') :
    t'.board.pool.holds t'.link.claim = t.board.pool.holds t.link.claim := by
  rw [h.link]
  exact Pool.EqualAt.holds (c := t.link.claim) h.slot

/-! ## Small steps -/

theorem Twin.note (h : Twin t t') (e : Event) : Twin (t.note e) (t'.note e) :=
  { h with events := congrArg (· ++ [e]) h.events }

theorem Twin.count (h : Twin t t') (f : LinkStats → LinkStats) :
    Twin (t.count f) (t'.count f) := by
  obtain ⟨board, rfl⟩ := h.exists_board
  exact ⟨rfl, rfl, rfl, h.slot⟩

/-- The flag that a link sets is that of its own channel. -/
theorem Twin.setChannelActive (h : Twin t t') (active : Bool) :
    Twin (t.setChannelActive active) (t'.setChannelActive active) := by
  obtain ⟨board, rfl⟩ := h.exists_board
  exact ⟨rfl, rfl, rfl,
    Pool.EqualAt.setClaimActive (c := t.link.claim) h.slot active⟩

/-- The flag is set on one and the same condition. -/
theorem Twin.flagIf (h : Twin t t') (b : Bool) (active : Bool) :
    Twin (if b then t.setChannelActive active else t)
      (if b then t'.setChannelActive active else t') := by
  cases b
  · exact h
  · exact h.setChannelActive active

/-- A link signs and activates its own channel. -/
theorem Twin.begin (h : Twin t t') : Twin t.begin t'.begin := by
  have hsign : Twin t.sign t'.sign := by
    obtain ⟨board, rfl⟩ := h.exists_board
    exact ⟨rfl, rfl, rfl, h.slot.modify _⟩
  have hbegin (s : Turn ε) : s.begin =
      (if !s.link.policy.waitForHeartbeat then s.sign.setChannelActive true
        else s.sign).note
        (.begun s.link.channel s.link.transport) := by
    cases hwait : s.link.policy.waitForHeartbeat <;>
      simp [Turn.begin, sign, Turn.setChannelActive, hwait]
  rw [hbegin, hbegin, h.link]
  exact (hsign.flagIf _ true).note _

/-- Bytes are decoded by the link's own decoder. -/
theorem Twin.decode (h : Twin t t') (b : UInt8) :
    TwinWith (t.decode b) (t'.decode b) := by
  obtain ⟨board, rfl⟩ := h.exists_board
  exact ⟨⟨rfl, rfl, rfl, h.slot⟩, rfl⟩

theorem Twin.judge (h : Twin t t') (f : Frame) (verdict : Except Refusal Unit) :
    Twin (t.judge f verdict) (t'.judge f verdict) := by
  have hnote := h.note (.frame f verdict)
  cases verdict with
  | ok => exact hnote
  | error refusal =>
      exact hnote.count fun s =>
        { s with dispatchFailures := s.dispatchFailures + 1 }

/-- The count of active links rises on both boards, whatever it was on
either. -/
theorem Twin.greet (h : Twin t t') (now : Nat) :
    Twin (t.greet now) (t'.greet now) := by
  obtain ⟨board, rfl⟩ := h.exists_board
  exact ⟨rfl, rfl, rfl, h.slot⟩

theorem Twin.miss (h : Twin t t') (now : Nat) :
    Twin (t.miss now) (t'.miss now) := by
  obtain ⟨board, rfl⟩ := h.exists_board
  exact ⟨rfl, rfl, rfl, h.slot⟩

/-- A heartbeat finds the same tracker. -/
theorem Twin.beat (h : Twin t t') (now : Nat) :
    Twin (t.beat now) (t'.beat now) := by
  cases hactive : t.link.tracker.active with
  | true =>
      have hactive' : t'.link.tracker.active = true := by rw [h.link, hactive]
      rw [beat_eq_prolong hactive, beat_eq_prolong hactive']
      obtain ⟨board, rfl⟩ := h.exists_board
      exact ⟨rfl, rfl, rfl, h.slot⟩
  | false =>
      have hactive' : t'.link.tracker.active = false := by rw [h.link, hactive]
      rw [beat_eq_greet hactive, beat_eq_greet hactive', h.link]
      have hcount := h.count fun s => { s with heartbeats := s.heartbeats + 1 }
      exact ((hcount.greet now).flagIf _ true).note .activated

/-- The deadline is found missed on both boards or on neither. -/
theorem Twin.checkDeadline (h : Twin t t') (now : Nat) :
    TwinWith (t.checkDeadline now) (t'.checkDeadline now) := by
  have hexit : (t'.checkDeadline now).2 = (t.checkDeadline now).2 := by
    rw [exit_checkDeadline, exit_checkDeadline, h.link]
  refine ⟨?_, hexit⟩
  by_cases hlate : (t.link.tracker.poll now).2 = .deactivated
  · have hlate' : (t'.link.tracker.poll now).2 = .deactivated := by rwa [h.link]
    rw [checkDeadline_of_deactivated hlate,
      checkDeadline_of_deactivated hlate', h.link]
    exact ((h.miss now).flagIf _ false).note .idled
  · have hlate' : (t'.link.tracker.poll now).2 ≠ .deactivated := by rwa [h.link]
    rwa [checkDeadline_eq hlate, checkDeadline_eq hlate']

/-! ## Reading and writing -/

/-- The next chunk comes from the one slot that the boards share. -/
theorem Twin.refill (h : Twin t t') (chunk : Nat) :
    Twin (t.refill chunk) (t'.refill chunk) := by
  obtain ⟨board, rfl⟩ := h.exists_board
  obtain ⟨hslot, hbytes⟩ := h.slot.drain chunk
  unfold Turn.refill
  dsimp only
  split
  · exact ⟨by rw [hbytes], rfl, rfl, hslot⟩
  · exact h

/-- The policy decides the same on both boards. -/
theorem Twin.writeFailed (h : Twin t t') :
    TwinWith t.writeFailed t'.writeFailed := by
  obtain ⟨board, rfl⟩ := h.exists_board
  cases hends : t.link.policy.exitOnError with
  | true =>
      simp only [TwinWith, Turn.writeFailed, Turn.count, hends, if_true]
      exact ⟨⟨rfl, rfl, rfl, h.slot⟩, trivial⟩
  | false =>
      simp only [TwinWith, Turn.writeFailed, Turn.count, hends,
        Bool.false_eq_true, if_false]
      exact ⟨⟨rfl, rfl, rfl, h.slot⟩, trivial⟩

/-- As many bytes wait for the link, so that a drain has as many attempts. -/
theorem Twin.unwritten (h : Twin t t') : t'.unwritten = t.unwritten := by
  have hqueued : t'.board.pool.queued t.link.channel =
      t.board.pool.queued t.link.channel := by
    unfold Pool.queued
    rw [h.slot]
  unfold Turn.unwritten
  rw [h.link, hqueued]

variable [Endpoint ε]

/-- Attempt by attempt, a drain finds the same chunk and gets the same
answer. -/
theorem Twin.drainWithin (h : Twin t t') (chunk attempts : Nat) :
    TwinWith (drainWithin chunk attempts t)
      (drainWithin chunk attempts t') := by
  induction attempts generalizing t t' with
  | zero => exact ⟨h, rfl⟩
  | succ attempts ih =>
      have hrefill := h.refill chunk
      unfold Turn.drainWithin
      dsimp only
      generalize t.refill chunk = t₁ at hrefill ⊢
      generalize t'.refill chunk = t₁' at hrefill ⊢
      obtain ⟨board, rfl⟩ := hrefill.exists_board
      dsimp only
      split
      · exact ⟨hrefill, rfl⟩
      · rcases Endpoint.write t₁.endpoint t₁.link.pending with
            ⟨endpoint, answer⟩
        have hport : Twin { t₁ with endpoint } { t₁ with board, endpoint } :=
          ⟨rfl, rfl, rfl, hrefill.slot⟩
        cases answer with
        | error fault => exact hport.writeFailed
        | ok n =>
            cases n with
            | zero => exact ⟨hport, rfl⟩
            | succ n => exact ih ⟨rfl, rfl, rfl, hrefill.slot⟩

theorem Twin.drain (h : Twin t t') (chunk : Nat) :
    TwinWith (t.drain chunk) (t'.drain chunk) := by
  unfold Turn.drain
  rw [h.unwritten]
  exact h.drainWithin chunk _

/-- A read takes the same bytes from the same endpoint. -/
theorem Twin.read (h : Twin t t') (size : Nat) :
    TwinWith (t.read size) (t'.read size) := by
  obtain ⟨board, rfl⟩ := h.exists_board
  unfold Turn.read
  dsimp only
  rcases Endpoint.read t.endpoint size with ⟨endpoint, answer⟩
  cases answer with
  | ok bytes => exact ⟨⟨rfl, rfl, rfl, h.slot⟩, rfl⟩
  | error fault =>
      dsimp only
      split
      · exact ⟨⟨rfl, rfl, rfl, h.slot⟩, rfl⟩
      · exact ⟨⟨rfl, rfl, rfl, h.slot⟩, rfl⟩

/-! ## The end -/

omit [Endpoint ε] in
/-- Both release the same slot, and a link that has ended releases none. -/
theorem Twin.release (h : Twin t t') : Twin t.release t'.release := by
  by_cases hpast : t.link.state = .terminated
  · have hpast' : t'.link.state = .terminated := by rwa [h.link]
    rwa [release_of_past hpast, release_of_past hpast']
  · have hpast' : t'.link.state ≠ .terminated := by rwa [h.link]
    refine ⟨?_, ?_, ?_, ?_⟩
    · rw [link_release, link_release, h.link]
    · rw [endpoint_release, endpoint_release, h.endpoint]
    · by_cases hactive : t.link.state = .active
      · have hactive' : t'.link.state = .active := by rwa [h.link]
        rw [(release_of_active hactive).2, (release_of_active hactive').2,
          h.events]
      · have hactive' : t'.link.state ≠ .active := by rwa [h.link]
        rw [(release_of_not_active hactive).2,
          (release_of_not_active hactive').2, h.events]
    · rw [link_release, pool_release hpast, pool_release hpast', h.link]
      exact h.slot.free _

omit [Endpoint ε] in
/-- A link gives back its own channel only. -/
theorem release_apart {i : Nat} (hi : t.link.claim.index ≠ i) :
    t.board.pool.EqualAt i t.release.board.pool := by
  by_cases hpast : t.link.state = .terminated
  · rw [release_of_past hpast]
    rfl
  · rw [pool_release hpast]
    exact t.board.pool.equalAt_free_of_ne hi _

omit [Endpoint ε] in
/-- A link leaves with the same report on both boards. -/
theorem Twin.leave (h : Twin t t') (exit : Exit) (cue : Cue) :
    TwinWith (t.leave exit cue) (t'.leave exit cue) := by
  have hrelease := h.release
  refine ⟨{ hrelease with events := ?_ }, rfl⟩
  have hreport : t'.release.report exit cue.now =
      t.release.report exit cue.now := by
    unfold Turn.report
    rw [hrelease.link]
  rw [events_leave, events_leave, hrelease.events, hreport]

/-! ## Stretches of work -/

omit [Endpoint ε] in
/-- A tick ends in the same wait, or with the same reason. -/
theorem Twin.endTick (h : Twin t t') (now : Nat) (cue : Cue) :
    TwinWith (t.endTick now cue) (t'.endTick now cue) := by
  have hcount : Twin
      (t.count fun s =>
        { s with parseErrors := t.link.decoder.stats.parseErrors })
      (t'.count fun s =>
        { s with parseErrors := t'.link.decoder.stats.parseErrors }) := by
    rw [h.link]
    exact h.count _
  obtain ⟨t₁, t₁', exit, hcheck, hcheck', htwin⟩ :=
    (hcount.checkDeadline now).split
  unfold Turn.endTick
  dsimp only
  rw [hcount.link, hcheck, hcheck']
  generalize ((t.count _).link.tracker.poll now).2 = transition
  cases transition with
  | deactivated => exact ⟨htwin, rfl⟩
  | _ =>
      cases exit with
      | none => exact ⟨htwin, rfl⟩
      | some exit => exact htwin.leave exit cue

omit [Endpoint ε] in
/-- The same byte completes the next frame on both boards. -/
theorem Twin.takeIn (h : Twin t t') (now : Nat) (cue : Cue) (bytes : Bytes) :
    TwinWith (t.takeIn now cue bytes) (t'.takeIn now cue bytes) := by
  induction bytes generalizing t t' with
  | nil => exact h.endTick now cue
  | cons b rest ih =>
      obtain ⟨t₁, t₁', frame, hdecode, hdecode', htwin⟩ := (h.decode b).split
      unfold Turn.takeIn
      rw [hdecode, hdecode']
      cases frame with
      | none => exact ih htwin
      | some f => exact ⟨htwin, rfl⟩

omit [Endpoint ε] in
/-- The verdict counts for the same on both boards. -/
theorem Twin.weigh (h : Twin t t') (now : Nat) (f : Frame) (rest : Bytes)
    (cue : Cue) :
    TwinWith (t.weigh now f rest cue) (t'.weigh now f rest cue) := by
  have hjudge := h.judge f cue.verdict
  have hbeat := hjudge.beat now
  unfold Turn.weigh
  dsimp only
  rw [hjudge.link]
  split
  · split
    · exact hbeat.takeIn now cue rest
    · exact ⟨hbeat, rfl⟩
  · exact hjudge.takeIn now cue rest

/-- The first stretch of a tick sees of the board only the link's own slot. -/
theorem Twin.startTick (h : Twin t t') (config : LinkConfig) (cue : Cue) :
    TwinWith (t.startTick config cue) (t'.startTick config cue) := by
  obtain ⟨t₁, t₁', exit, hdrain, hdrain', hwritten⟩ :=
    (h.drain config.writeChunk).split
  unfold Turn.startTick
  rw [h.holds, hdrain, hdrain']
  split
  · exact h.leave .evicted cue
  · cases exit with
    | some exit => exact hwritten.leave exit cue
    | none =>
        obtain ⟨t₂, t₂', answer, hread, hread', htwin⟩ :=
          (hwritten.read config.readBuffer).split
        dsimp only
        rw [hread, hread']
        cases answer with
        | error exit => exact htwin.leave exit cue
        | ok bytes => exact htwin.takeIn cue.now cue bytes

/-- **A stretch of work** comes to the same, whatever else is on the board. -/
theorem Twin.resume (h : Twin t t') (config : LinkConfig) (cue : Cue)
    (stand : Stand) :
    TwinWith (t.resume config cue stand) (t'.resume config cue stand) := by
  cases stand with
  | connected => exact ⟨h.begin, rfl⟩
  | beginning => exact ⟨h, rfl⟩
  | waiting => exact h.startTick config cue
  | judging now f rest => exact h.weigh now f rest cue
  | greeting now rest => exact h.takeIn now cue rest
  | parting exit =>
      cases exit with
      | none => exact ⟨h, rfl⟩
      | some exit => exact h.leave exit cue
  | ending => exact ⟨h, rfl⟩
  | finished => exact ⟨h, rfl⟩

/-- **A stretch of work of a link on another channel** leaves a slot as it
is. -/
theorem resume_apart {i : Nat} (hi : t.link.channel ≠ i) (config : LinkConfig)
    (cue : Cue) (stand : Stand) :
    t.board.pool.EqualAt i (t.resume config cue stand).1.board.pool := by
  have hkept := resume_keep (P := fun a => a.link.claim = t.link.claim ∧
      t.board.pool.EqualAt i a.board.pool) config cue stand ?_ ?_
    ⟨rfl, t.board.pool.equalAt_modify_of_ne hi _⟩ ⟨rfl, rfl⟩
  · exact hkept.2
  · intro a b hmove ⟨hclaim, hslot⟩
    have hindex : a.link.claim.index ≠ i := by rwa [hclaim]
    refine ⟨hmove.since.claim.trans hclaim, ?_⟩
    rcases hmove.pool_cases with heq | ⟨active, heq⟩ | ⟨_, heq⟩
    · rwa [heq]
    · rw [heq]
      exact (a.board.pool.equalAt_setClaimActive_of_ne hindex active).trans
        hslot
    · rw [heq, Pool.drain_eq]
      exact (a.board.pool.equalAt_modify_of_ne hindex _).trans hslot
  · intro a exit ⟨hclaim, hslot⟩
    exact ⟨by rw [link_leave, link_release, ← hclaim],
      (release_apart (hclaim ▸ hi)).trans hslot⟩

end Turn

namespace Downlink

/-! ## Requests -/

variable {d d' : Downlink} {i : Nat} {op : Op}

/-- A request that does not concern a channel leaves it as it is, and uses no
number. -/
theorem perform_aside (hclaim : op ≠ .claim) (hop : op.concerns i = false) :
    d.pool.EqualAt i (d.perform op).1.pool ∧
    (d.perform op).1.publisher = d.publisher := by
  cases op with
  | claim => exact absurd rfl hclaim
  | release j =>
      exact ⟨d.pool.equalAt_free_of_ne (by simpa [Op.concerns] using hop) _,
        rfl⟩
  | releaseClaim c =>
      exact ⟨d.pool.equalAt_free_of_ne (by simpa [Op.concerns] using hop) _,
        rfl⟩
  | setOwner j name =>
      exact ⟨d.pool.equalAt_modify_of_ne (by simpa [Op.concerns] using hop) _,
        rfl⟩
  | setActive j active =>
      exact ⟨d.pool.equalAt_setActive_of_ne
        (by simpa [Op.concerns] using hop) _, rfl⟩
  | setClaimActive c active =>
      exact ⟨d.pool.equalAt_setClaimActive_of_ne
        (by simpa [Op.concerns] using hop) _, rfl⟩
  | drain j n =>
      exact ⟨d.pool.equalAt_drain_of_ne (by simpa [Op.concerns] using hop) n,
        rfl⟩
  | _ => cases hop

/-- What is published is offered to the slot as it is. -/
theorem equalAt_publish (h : d.pool.EqualAt i d'.pool) (bytes : Bytes) :
    (d.pool.publish bytes).1.EqualAt i (d'.pool.publish bytes).1 := by
  unfold Pool.EqualAt Pool.publish
  rw [List.getElem?_map, List.getElem?_map, h]

/-- A request that concerns a channel makes the same of the same slot. -/
theorem perform_concern (h : d.pool.EqualAt i d'.pool)
    (hpublisher : d'.publisher = d.publisher) (hop : op.concerns i = true) :
    (d.perform op).1.pool.EqualAt i (d'.perform op).1.pool ∧
      (d'.perform op).1.publisher = (d.perform op).1.publisher := by
  refine ⟨?_, by rw [publisher_perform, publisher_perform, hpublisher]⟩
  have houtgoing : d'.outgoing op = d.outgoing op := by
    unfold outgoing
    rw [hpublisher]
  rw [pool_perform, pool_perform, houtgoing]
  cases d.outgoing op with
  | some bytes => exact equalAt_publish h bytes
  | none =>
      cases op with
      | claim => cases hop
      | release j =>
          obtain rfl : j = i := by simpa [Op.concerns] using hop
          exact h.free none
      | releaseClaim c =>
          obtain rfl : c.index = i := by simpa [Op.concerns] using hop
          exact h.free _
      | setOwner j name =>
          obtain rfl : j = i := by simpa [Op.concerns] using hop
          exact h.modify _
      | setActive j active =>
          obtain rfl : j = i := by simpa [Op.concerns] using hop
          exact h.setActive active
      | setClaimActive c active =>
          obtain rfl : c.index = i := by simpa [Op.concerns] using hop
          exact h.setClaimActive active
      | drain j n =>
          obtain rfl : j = i := by simpa [Op.concerns] using hop
          exact (h.drain n).1
      | _ => exact h

end Downlink

/-- What an act is that concerns link `k` on channel `i`. -/
def Act.Is {ε : Type} (k i : Nat) (a : Act ε) : Concern ε → Prop
  | .goes now => ∃ cue, cue.now = now ∧ a = .resume k cue
  | .dropped => a = .drop k
  | .far f => a = .far k f
  | .asked op => op.concerns i = true ∧ a = .ask op

/-- An act concerns a link in no other way than it says. -/
theorem Act.is_of_concern? {ε : Type} {k i : Nat} {a : Act ε} {x : Concern ε}
    (h : a.concern? k i = some x) : a.Is k i x := by
  cases a with
  | connect => cases h
  | resume j cue =>
      obtain ⟨rfl, hx⟩ := Option.ite_none_right_eq_some.mp h
      cases hx
      exact ⟨cue, rfl, rfl⟩
  | drop j =>
      obtain ⟨rfl, hx⟩ := Option.ite_none_right_eq_some.mp h
      cases hx
      rfl
  | far j f =>
      obtain ⟨rfl, hx⟩ := Option.ite_none_right_eq_some.mp h
      cases hx
      rfl
  | ask op =>
      obtain ⟨hop, hx⟩ := Option.ite_none_right_eq_some.mp h
      cases hx
      exact ⟨hop, rfl⟩

namespace Traffic

variable {ε : Type} [Endpoint ε] {verdict : Frame → Except Refusal Unit}
  {w w' : Traffic ε} {k k' : Nat} {c : Course ε} {s : Option Slot}
  {publisher : Publisher}

/-! ## One link among others -/

/-- The links are on channels of their own. -/
def Apart (w : Traffic ε) : Prop := (w.courses.map (·.link.channel)).Nodup

/-- Link `k` of one traffic and link `k'` of the other are the same, on channel
`i`: all that the link has is the same, and so are the slot of its channel and
who publishes to it. -/
structure Same (k k' i : Nat) (w w' : Traffic ε) : Prop where
  course : ∃ c, w.courses[k]? = some c ∧ w'.courses[k']? = some c ∧
    c.link.channel = i
  slot : w'.downlink.pool.slots[i]? = w.downlink.pool.slots[i]?
  publisher : w'.downlink.publisher = w.downlink.publisher

/-- Link `k` is `c`, the only one on its channel, with the slot `s` there and
this publisher in front of it. -/
structure Hosts (k : Nat) (c : Course ε) (s : Option Slot)
    (publisher : Publisher) (w : Traffic ε) : Prop where
  course : w.courses[k]? = some c
  slot : w.downlink.pool.slots[c.link.channel]? = s
  publisher : w.downlink.publisher = publisher
  alone : ∀ (j : Nat) (a : Course ε), w.courses[j]? = some a → j ≠ k →
    a.link.channel ≠ c.link.channel

/-- A link that goes on gets the verdict that the handler has on its frame. -/
theorem heed_resume {j : Nat} {a : Course ε} (hj : w.courses[j]? = some a)
    (cue : Cue) :
    w.heed verdict (.resume j cue) =
      w.act (.resume j (.of verdict cue.now a.stand)) := by
  simp only [heed, hj]

/-- An act of a traffic with a handler is nothing, or an act of it, which is to
every link what the act is. -/
theorem heed_cases (verdict : Frame → Except Refusal Unit) (w : Traffic ε)
    (a : Act ε) :
    w.heed verdict a = w ∨ ∃ b, w.heed verdict a = w.act b ∧
    b.isClaim = a.isClaim ∧
      ∀ k i, b.concern? k i = a.concern? k i := by
  cases a with
  | resume j cue =>
      cases hj : w.courses[j]? with
      | none => exact Or.inl (by simp only [heed, hj])
      | some c =>
          refine Or.inr ⟨_, heed_resume hj cue, rfl, ?_⟩
          intro k i
          simp only [Act.concern?]
          split
          · cases c.stand <;> rfl
          · rfl
  | _ => exact Or.inr ⟨_, rfl, rfl, fun _ _ => rfl⟩

omit [Endpoint ε] in
/-- After the work of another link that has left the slot alone. -/
theorem Hosts.commit_other (h : w.Hosts k c s publisher) {j : Nat}
    {a : Course ε} {t : Turn ε} (stand : Stand) (hj : w.courses[j]? = some a)
    (hjk : j ≠ k) (hclaim : t.link.claim = a.link.claim)
    (hslot : w.board.pool.EqualAt c.link.channel t.board.pool) :
    (w.commit j a t stand).Hosts k c s publisher where
  course := by
    rw [courses_commit hj, if_neg hjk]
    exact h.course
  slot := Eq.trans hslot h.slot
  publisher := h.publisher
  alone := by
    intro i b hi hik
    rw [courses_commit hj] at hi
    split at hi
    · obtain rfl := Option.some.inj hi
      have hchannel : t.link.channel = a.link.channel :=
        congrArg Claim.index hclaim
      exact fun heq => h.alone j a hj hjk (hchannel.symm.trans heq)
    · exact h.alone i b hi hik

omit [Endpoint ε] in
/-- After its own work. -/
theorem Hosts.commit_own (h : w.Hosts k c s publisher) {t : Turn ε}
    (stand : Stand) (hchannel : t.link.channel = c.link.channel) :
    (w.commit k c t stand).Hosts k
      (c.after t stand) t.board.pool.slots[t.link.channel]?
      publisher := by
  refine ⟨?_, rfl, h.publisher, ?_⟩
  · rw [courses_commit h.course, if_pos rfl]
  · intro j a hj hjk
    rw [courses_commit h.course, if_neg (Ne.symm hjk)] at hj
    exact fun heq => h.alone j a hj hjk (heq.trans hchannel)

omit [Endpoint ε] in
/-- After a request. -/
theorem Hosts.request (h : w.Hosts k c s publisher) (d : Downlink) :
    ({ w with downlink := d } : Traffic ε).Hosts k c
      d.pool.slots[c.link.channel]? d.publisher :=
  ⟨h.course, rfl, rfl, h.alone⟩

/-- Neither work nor a drop touches the slot of another channel. -/
theorem work_apart {j i : Nat} {a : Course ε} {b : Board} {act : Act ε}
    {t : Turn ε} {stand : Stand} (hwork : Work j a b act t stand)
    (hi : a.link.channel ≠ i) :
    b.pool.EqualAt i t.board.pool := by
  cases hwork with
  | resume cue => exact (a.turn b).resume_apart hi a.config cue a.stand
  | drop => exact Turn.release_apart (t := a.turn b) hi
  | far f => rfl

/-- **What does not concern a link** leaves it as it is, and its channel and the
publisher. -/
theorem Hosts.aside (h : w.Hosts k c s publisher) {a : Act ε}
    (hclaim : a.isClaim = false)
    (hconcern : a.concern? k c.link.channel = none) :
    (w.heed verdict a).Hosts k c s publisher := by
  rcases heed_cases verdict w a with hsame | ⟨b, hheed, hclaim', hconcern'⟩
  · rwa [hsame]
  · rw [← hclaim'] at hclaim
    rw [← hconcern'] at hconcern
    rcases w.act_cases b with ⟨_, hsame⟩ | ⟨j, a₀, t, stand, hj, hwork, heq⟩ |
      ⟨name, policy, config, now, endpoint, pool, claim, hconnect, _, _⟩ | ⟨op,
        hask, heq⟩
    · rwa [hheed, hsame]
    · -- another link is at work
      have hjk : j ≠ k := by
        rintro rfl
        cases hwork <;> simp [Act.concern?] at hconcern
      rw [hheed, heq]
      exact h.commit_other stand hj hjk (work_since hwork).claim
        (work_apart hwork (h.alone j a₀ hj hjk))
    · rw [hconnect] at hclaim
      cases hclaim
    · rw [hask] at hclaim hconcern
      have hop : op.concerns c.link.channel = false := by
        simpa [Act.concern?] using hconcern
      have hnot : op ≠ .claim := by
        rintro rfl
        cases hclaim
      obtain ⟨hslot, hpublisher⟩ :=
        Downlink.perform_aside (d := w.downlink) hnot hop
      have hafter := h.request (w.downlink.perform op).1
      rw [hslot, h.slot, hpublisher, h.publisher] at hafter
      rwa [hheed, heq]

/-- Link `k` of one traffic and link `k'` of the other are the same, alone on
channel `i`. -/
def Paired (k k' : Nat) (i : Nat) (w w' : Traffic ε) : Prop :=
  ∃ c s publisher, c.link.channel = i ∧ w.Hosts k c s publisher ∧
    w'.Hosts k' c s publisher

omit [Endpoint ε] in
/-- Work of the link that comes to the same in both. -/
theorem Hosts.works (h : w.Hosts k c s publisher)
    (h' : w'.Hosts k' c s publisher) {result result' : Turn ε × Stand}
    (htwin : Turn.TwinWith result result')
    (hclaim : result.1.link.claim = c.link.claim) :
    Paired k k' c.link.channel (w.commit k c result.1 result.2)
      (w'.commit k' c result'.1 result'.2) := by
  obtain ⟨t, t', stand, rfl, rfl, hturn⟩ := htwin.split
  have hchannel : t.link.channel = c.link.channel := congrArg Claim.index hclaim
  have hchannel' : t'.link.channel = c.link.channel := by
    rw [hturn.link, hchannel]
  have hafter : c.after t' stand = c.after t stand := by
    unfold Course.after
    rw [hturn.link, hturn.endpoint, hturn.events]
  have hslot : t'.board.pool.slots[t'.link.channel]? =
      t.board.pool.slots[t.link.channel]? := by
    rw [hturn.link]
    exact hturn.slot
  have hown := h.commit_own stand hchannel
  have hown' := h'.commit_own stand hchannel'
  rw [hafter, hslot] at hown'
  exact ⟨_, _, _, hchannel, hown, hown'⟩

/-- **What concerns a link** makes the same of it in any two traffics in which
it is the same. -/
theorem Hosts.concern (h : w.Hosts k c s publisher)
    (h' : w'.Hosts k' c s publisher) {a a' : Act ε} {x : Concern ε}
    (ha : a.concern? k c.link.channel = some x)
    (ha' : a'.concern? k' c.link.channel = some x) :
    Paired k k' c.link.channel (w.heed verdict a) (w'.heed verdict a') := by
  have hturn : Turn.Twin (c.turn w.board) (c.turn w'.board) :=
    ⟨rfl, rfl, rfl, h'.slot.trans h.slot.symm⟩
  have hact := Act.is_of_concern? ha
  have hact' := Act.is_of_concern? ha'
  cases x with
  | goes now =>
      obtain ⟨cue, rfl, rfl⟩ := hact
      obtain ⟨cue', hnow, rfl⟩ := hact'
      rw [heed_resume h.course, heed_resume h'.course, hnow,
        act_resume h.course, act_resume h'.course]
      exact h.works h' (hturn.resume c.config _ c.stand)
        (Turn.since_resume c.config _ c.stand (c.turn w.board)).claim
  | dropped =>
      obtain rfl : a = .drop k := hact
      obtain rfl : a' = .drop k' := hact'
      have hends : Turn.TwinWith ((c.turn w.board).release, Stand.finished)
          ((c.turn w'.board).release, .finished) := ⟨hturn.release, rfl⟩
      have hsame := h.works h' hends (Turn.since_release (c.turn w.board)).claim
      rw [← act_drop h.course, ← act_drop h'.course] at hsame
      exact hsame
  | far f =>
      obtain rfl : a = .far k f := hact
      obtain rfl : a' = .far k' f := hact'
      have hport : Turn.TwinWith
          ({ c.turn w.board with endpoint := f c.endpoint }, c.stand)
          ({ c.turn w'.board with endpoint := f c.endpoint }, c.stand) :=
        ⟨⟨rfl, rfl, rfl, hturn.slot⟩, rfl⟩
      have hsame := h.works h' hport rfl
      rw [← act_far h.course, ← act_far h'.course] at hsame
      exact hsame
  | asked op =>
      obtain ⟨hop, rfl⟩ := hact
      obtain ⟨_, rfl⟩ := hact'
      have hbefore : w.downlink.pool.EqualAt c.link.channel w'.downlink.pool :=
        hturn.slot
      obtain ⟨hslot, hpublisher⟩ := Downlink.perform_concern hbefore
        (h'.publisher.trans h.publisher.symm) hop
      have hafter := h.request (w.downlink.perform op).1
      have hafter' := h'.request (w'.downlink.perform op).1
      rw [hslot, hpublisher] at hafter'
      exact ⟨_, _, _, rfl, hafter, hafter'⟩

/-! ## Two runs -/

omit [Endpoint ε] in
/-- Neither of the two traffics comes first. -/
theorem Paired.symm {i : Nat} (h : Paired k k' i w w') :
    Paired k' k i w' w := by
  obtain ⟨c, s, publisher, hchannel, hw, hw'⟩ := h
  exact ⟨c, s, publisher, hchannel, hw', hw⟩

/-- Acts that do not concern the link in one of the runs. -/
theorem Paired.aside {i : Nat} (h : Paired k k' i w w') {acts : List (Act ε)}
    (hclaim : ∀ a ∈ acts, a.isClaim = false)
    (hconcern : ∀ a ∈ acts, a.concern? k i = none) :
    Paired k k' i (w.heedAll verdict acts) w' := by
  induction acts generalizing w with
  | nil => exact h
  | cons a acts ih =>
      rw [List.forall_mem_cons] at hclaim hconcern
      obtain ⟨c, s, publisher, rfl, hw, hw'⟩ := h
      exact ih ⟨c, s, publisher, rfl, hw.aside hclaim.1 hconcern.1, hw'⟩
        hclaim.2 hconcern.2

/-- **Two runs** in which the same things concern a link that is the same in
both. -/
theorem Paired.run {i : Nat} (h : Paired k k' i w w')
    {acts acts' : List (Act ε)} (hclaim : ∀ a ∈ acts, a.isClaim = false)
    (hclaim' : ∀ a ∈ acts', a.isClaim = false)
    (hsame : acts'.filterMap (·.concern? k' i) =
      acts.filterMap (·.concern? k i)) :
    Paired k k' i (w.heedAll verdict acts) (w'.heedAll verdict acts') := by
  induction acts generalizing w w' acts' with
  | nil =>
      exact (h.symm.aside hclaim' (List.filterMap_eq_nil_iff.mp hsame)).symm
  | cons a acts ih =>
      rw [List.forall_mem_cons] at hclaim
      cases ha : a.concern? k i with
      | none =>
          rw [List.filterMap_cons_none ha] at hsame
          have hfirst : Paired k k' i (w.heedAll verdict [a]) w' :=
            h.aside (by simpa using hclaim.1) (by simpa using ha)
          exact ih hfirst hclaim.2 hclaim' hsame
      | some x =>
          -- the other run comes to the same point after acts that do not
          -- concern its link
          rw [List.filterMap_cons_some ha] at hsame
          obtain ⟨aside, a', rest, rfl, haside, ha', hrest⟩ :=
            List.filterMap_eq_cons_iff.mp hsame
          rw [List.forall_mem_append, List.forall_mem_cons] at hclaim'
          have hpoint : Paired k k' i w (w'.heedAll verdict aside) :=
            (h.symm.aside hclaim'.1 haside).symm
          obtain ⟨c, s, publisher, rfl, hw, hw'⟩ := hpoint
          rw [heedAll_append]
          exact ih (hw.concern hw' ha ha') hclaim.2 hclaim'.2.2 hrest

omit [Endpoint ε] in
/-- What two links share when they are paired is all that a link has. -/
theorem Paired.same {i : Nat} (h : Paired k k' i w w') : Same k k' i w w' := by
  obtain ⟨c, s, publisher, hchannel, hw, hw'⟩ := h
  subst hchannel
  exact ⟨⟨c, hw.course, hw'.course, rfl⟩, hw'.slot.trans hw.slot.symm,
    hw'.publisher.trans hw.publisher.symm⟩

omit [Endpoint ε] in
/-- Links on channels of their own are alone there. -/
theorem Same.paired {i : Nat} (h : Same k k' i w w') (hapart : w.Apart)
    (hapart' : w'.Apart) :
    Paired k k' i w w' := by
  obtain ⟨⟨c, hk, hk', hchannel⟩, hslot, hpublisher⟩ := h
  have halone {v : Traffic ε} {m : Nat} (hv : v.Apart)
      (hm : v.courses[m]? = some c) (j : Nat)
      (a : Course ε) (hj : v.courses[j]? = some a) (hjm : j ≠ m) :
      a.link.channel ≠ c.link.channel := by
    intro heq
    have hj' : (v.courses.map (·.link.channel))[j]? = some c.link.channel := by
      rw [List.getElem?_map, hj, Option.map_some, heq]
    have hm' : (v.courses.map (·.link.channel))[m]? = some c.link.channel := by
      rw [List.getElem?_map, hm, Option.map_some]
    obtain ⟨hjlt, hjget⟩ := List.getElem?_eq_some_iff.mp hj'
    obtain ⟨hmlt, hmget⟩ := List.getElem?_eq_some_iff.mp hm'
    exact hjm ((List.Nodup.getElem_inj_iff hv).mp (hjget.trans hmget.symm))
  subst hchannel
  exact ⟨c, _, _, rfl, ⟨hk, rfl, rfl, halone hapart hk⟩,
    ⟨hk', hslot, hpublisher, halone hapart' hk'⟩⟩

/-- **Links do not interfere with each other.**  Take a link that is the same in
two traffics of links on channels of their own, whoever the others are, whose
frames have the same verdicts and where no channel is claimed any more.  Let
things happen in either that are the same as far as they concern the link: when
it goes on or is dropped, what the far end of its endpoint does, what is
published and what is asked about its channel, in the same order.  What happens
to the others and what is asked about their channels can be different
throughout.

Then the link is the same in the end, and at every point of one run there is a
point of the other at which it is the same: in its state, its counters and the
bytes that it has at hand, in its endpoint with all that has been written to it,
in its record with the frames that its handler has decided on and the reason why
it has ended, and in the slot of its channel. -/
theorem links_do_not_interfere (verdict : Frame → Except Refusal Unit) {i : Nat}
    (hbefore : Same k k' i w w') (hapart : w.Apart) (hapart' : w'.Apart)
    {acts acts' : List (Act ε)} (hclaim : ∀ a ∈ acts, a.isClaim = false)
    (hclaim' : ∀ a ∈ acts', a.isClaim = false)
    (hconcern : acts'.filterMap (·.concern? k' i) =
      acts.filterMap (·.concern? k i)) :
    Same k k' i (w.heedAll verdict acts) (w'.heedAll verdict acts') ∧
      ∀ past, past <+: acts → ∃ past', past' <+: acts' ∧
        past'.filterMap (·.concern? k' i) = past.filterMap (·.concern? k i) ∧
        Same k k' i (w.heedAll verdict past) (w'.heedAll verdict past') := by
  have hpaired := hbefore.paired hapart hapart'
  refine ⟨(hpaired.run hclaim hclaim' hconcern).same, ?_⟩
  rintro past ⟨rest, rfl⟩
  rw [List.filterMap_append] at hconcern
  obtain ⟨past', rest', rfl, hpast, _⟩ :=
    List.filterMap_eq_append_iff.mp hconcern
  rw [List.forall_mem_append] at hclaim hclaim'
  exact ⟨past', List.prefix_append past' rest', hpast,
    (hpaired.run hclaim.1 hclaim'.1 hpast).same⟩

end Traffic

/-- The link that is to be watched, and another on the next channel. -/
def company (policy : Policy) (endpoint : Pipe) : Traffic (Recorded Pipe) :=
  (Traffic.start (.pair 8)).run
    ([.connect "gcs" {} { heartbeatTimeout := 10 } 0 {},
      .connect "camera" policy {} 0 endpoint].map Act.recorded)

/-- The other link begins, and waits. -/
def calmly : List (Act (Recorded Pipe)) :=
  [going 0, going 0, .resume 1 ⟨0, .ok (), none⟩, beating, going 5, going 5,
    going 5, .ask (.publish [1, 2, 3]), going 6, going 12].map Act.recorded

/-- Somebody drains the channel of the other link and makes it active; that link
ends with its first write and is dropped all the same. -/
def roughly : List (Act (Recorded Pipe)) :=
  [.resume 1 ⟨0, .ok (), none⟩, going 0,
    .far 1 (fun p => { p with failWrites := true }), going 0, beating, going 5,
    .ask (.drain 1 3), going 5, .ask (.setActive 1 true), going 5,
    .ask (.publish [1, 2, 3]), .resume 1 ⟨1, .ok (), none⟩,
    .resume 1 ⟨1, .ok (), none⟩, going 6, .drop 1, going 12].map Act.recorded

/-- Whatever becomes of the other link, the link is active and has written three
bytes. -/
theorem company_apart :
    let verdict := Handler.heartbeatsOnly.verdict
    let w := company {} {}
    let w' := company .tcp { peerGone := true }
    roughly.filterMap (Act.concern? 0 0) = calmly.filterMap (Act.concern? 0 0) ∧
      (w.heedAll verdict calmly).courses.map
        (fun c => (c.link.state, c.endpoint.written)) =
        [(.active, [1, 2, 3]), (.starting, [])] ∧
      (w'.heedAll verdict roughly).courses[1]?.map (·.link.state) =
        some .terminated ∧
      Traffic.Same 0 0 0 (w.heedAll verdict calmly)
        (w'.heedAll verdict roughly) := by
  intro verdict w w'
  have hconcern : roughly.filterMap (Act.concern? 0 0) =
      calmly.filterMap (Act.concern? 0 0) := rfl
  have hbefore : Traffic.Same 0 0 0 w w' := ⟨⟨_, rfl, rfl, rfl⟩, rfl, rfl⟩
  have hapart : w.Apart := by
    unfold Traffic.Apart
    decide +kernel
  have hapart' : w'.Apart := by
    unfold Traffic.Apart
    decide +kernel
  have hclaim : ∀ a ∈ calmly, a.isClaim = false := by decide
  have hclaim' : ∀ a ∈ roughly, a.isClaim = false := by decide
  obtain ⟨hsame, _⟩ :=
    Traffic.links_do_not_interfere verdict hbefore hapart hapart' hclaim hclaim'
      hconcern
  exact ⟨hconcern, by decide +kernel, by decide +kernel, hsame⟩

end GroundLink
