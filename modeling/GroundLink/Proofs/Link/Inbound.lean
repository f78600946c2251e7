import GroundLink.Link.Circumstance
import GroundLink.Proofs.Link.Heartbeats

/-!
# Sending does not disturb listening

A link writes before it reads, on the same tick, and both halves share its
channel and its counters.  Still nothing that happens to what it sends makes a
difference to what it hears: two links that are alike but for what they send
(`Turn.Alike`) stay alike, stretch by stretch.

* `alike_drain` — a link that has written, or failed to, is alike to itself
  before;
* `Alike.startTick`, …, `Alike.resume` — alike links do alike, whatever waits on
  their channels and however their writes fare, if their policies put up with
  failed writes;
* `alike_run` — and so they do in any two traffics in which they get to know the
  same.
-/

namespace GroundLink

namespace Turn

variable {ε ι : Type} [Endpoint ε] {inbox : Inbox ε ι}

/-- The links are alike but for what they send: they are on channels of the same
number, which are active or not alike, their inboxes hold the same, they think
the same of the other side, and they have done the same, but for the counters of
bytes that were sent. -/
structure Alike (inbox : Inbox ε ι) (t t' : Turn ε) : Prop where
  holds : inbox.of t.endpoint = inbox.of t'.endpoint
  channel : t.link.channel = t'.link.channel
  transport : t.link.transport = t'.link.transport
  policy : t.link.policy = t'.link.policy
  startedAt : t.link.startedAt = t'.link.startedAt
  tracker : t.link.tracker = t'.link.tracker
  decoder : t.link.decoder = t'.link.decoder
  state : t.link.state = t'.link.state
  stats : t.link.stats.inbound = t'.link.stats.inbound
  events : t.events.map Event.inbound = t'.events.map Event.inbound
  flag : t.flag = t'.flag

variable {t t' : Turn ε}

theorem Alike.refl (inbox : Inbox ε ι) (t : Turn ε) : Alike inbox t t :=
  ⟨rfl, rfl, rfl, rfl, rfl, rfl, rfl, rfl, rfl, rfl, rfl⟩

/-- Neither of the two links comes first. -/
theorem Alike.symm (h : Alike inbox t t') : Alike inbox t' t where
  holds := h.holds.symm
  channel := h.channel.symm
  transport := h.transport.symm
  policy := h.policy.symm
  startedAt := h.startedAt.symm
  tracker := h.tracker.symm
  decoder := h.decoder.symm
  state := h.state.symm
  stats := h.stats.symm
  events := h.events.symm
  flag := h.flag.symm

theorem Alike.trans {t₁ t₂ t₃ : Turn ε} (h₁₂ : Alike inbox t₁ t₂)
    (h₂₃ : Alike inbox t₂ t₃) :
    Alike inbox t₁ t₃ where
  holds := h₁₂.holds.trans h₂₃.holds
  channel := h₁₂.channel.trans h₂₃.channel
  transport := h₁₂.transport.trans h₂₃.transport
  policy := h₁₂.policy.trans h₂₃.policy
  startedAt := h₁₂.startedAt.trans h₂₃.startedAt
  tracker := h₁₂.tracker.trans h₂₃.tracker
  decoder := h₁₂.decoder.trans h₂₃.decoder
  state := h₁₂.state.trans h₂₃.state
  stats := h₁₂.stats.trans h₂₃.stats
  events := h₁₂.events.trans h₂₃.events
  flag := h₁₂.flag.trans h₂₃.flag

/-- Two stretches of work that leave the links alike, at the same wait. -/
def AlikeStretch (inbox : Inbox ε ι) (result result' : Turn ε × Stand) : Prop :=
  Alike inbox result.1 result'.1 ∧ result.2 = result'.2

/-! ## Small steps -/

/-- The same event goes on both records. -/
theorem Alike.note (h : Alike inbox t t') (e : Event) :
    Alike inbox (t.note e) (t'.note e) :=
  { h with events := by simp [Turn.note, h.events] }

/-- The counters may be changed in two ways that differ in what was sent. -/
theorem Alike.count (h : Alike inbox t t') {f f' : LinkStats → LinkStats}
    (hcount : (f t.link.stats).inbound = (f' t'.link.stats).inbound) :
    Alike inbox (t.count f) (t'.count f') :=
  { h with stats := hcount }

/-- A counter of what comes in is counted alike. -/
theorem Alike.countSame (h : Alike inbox t t') (f : LinkStats → LinkStats)
    (hf : ∀ s, (f s).inbound = f s.inbound) :
    Alike inbox (t.count f) (t'.count f) := by
  refine h.count ?_
  rw [hf, hf, h.stats]

omit [Endpoint ε] in
/-- A link sees the flag that it has set, unless it is evicted. -/
theorem flag_setChannelActive (t : Turn ε) (active : Bool) :
    (t.setChannelActive active).flag = t.flag.map fun _ => active := by
  have hpool : (t.setChannelActive active).board.pool =
      (t.board.pool.setClaimActive t.link.claim active).1 := rfl
  have hlink : (t.setChannelActive active).link = t.link := rfl
  unfold flag
  rw [hpool, hlink, Pool.holds_setClaimActive]
  split
  · next held => exact congrArg some (Pool.isActive_setClaimActive held active)
  · rfl

/-- The flag is set on both channels or on neither. -/
theorem Alike.setChannelActive (h : Alike inbox t t') (active : Bool) :
    Alike inbox (t.setChannelActive active) (t'.setChannelActive active) :=
  { h with
    flag := by rw [flag_setChannelActive, flag_setChannelActive, h.flag] }

/-- The flag is set on a condition of the policy. -/
theorem Alike.flagIf (h : Alike inbox t t') (b : Bool) (active : Bool) :
    Alike inbox (if b then t.setChannelActive active else t)
      (if b then t'.setChannelActive active else t') := by
  cases b
  · exact h
  · exact h.setChannelActive active

omit [Endpoint ε] in
/-- Whoever has signed a channel has neither won nor lost anything there. -/
theorem flag_sign (t : Turn ε) : t.sign.flag = t.flag := by
  have hpool : t.sign.board.pool =
      t.board.pool.setOwner t.link.channel t.link.name := rfl
  have hlink : t.sign.link = t.link := rfl
  unfold flag
  rw [hpool, hlink, Pool.holds_setOwner,
    (Pool.sameAt_setOwner _ _ _ _).isActive]

/-- Links that begin sign their channels and treat the flag alike. -/
theorem Alike.begin (h : Alike inbox t t') : Alike inbox t.begin t'.begin := by
  have hsign : Alike inbox t.sign t'.sign :=
    { h with flag := by rw [flag_sign, flag_sign, h.flag] }
  have hbegin (s : Turn ε) : s.begin =
      (if s.link.policy.waitForHeartbeat then s.sign
        else s.sign.setChannelActive true).note
        (.begun s.link.channel s.link.transport) := by
    cases hwait : s.link.policy.waitForHeartbeat <;>
      simp [Turn.begin, sign, Turn.setChannelActive, hwait]
  rw [hbegin, hbegin, ← h.policy, ← h.channel, ← h.transport]
  refine Alike.note ?_ _
  split
  · exact hsign
  · exact hsign.setChannelActive true

/-! ## Writing -/

/-- What a link takes from its channel is nothing to what it hears. -/
theorem alike_refill (inbox : Inbox ε ι) (chunk : Nat) (t : Turn ε) :
    Alike inbox t (t.refill chunk) := by
  have hsame := sameSide_refill chunk t
  have hflag : t.flag = (t.refill chunk).flag := by
    have hchannel : (t.refill chunk).link.channel = t.link.channel :=
      congrArg Claim.index hsame.claim
    unfold flag
    rw [hchannel, hsame.claim, hsame.holds, hsame.isActive]
  have hrest := Alike.refl inbox t
  unfold refill at hflag ⊢
  split
  · next hempty =>
      rw [if_pos hempty] at hflag
      exact { hrest with flag := hflag }
  · exact hrest

/-- A failed write costs bytes that were to be sent, and its counter is one
of sending. -/
theorem alike_writeFailed (inbox : Inbox ε ι) (t : Turn ε) :
    Alike inbox t t.writeFailed.1 := by
  have hrest := Alike.refl inbox t
  unfold writeFailed
  dsimp only
  split <;> exact { hrest with }

/-- **However writing goes**, the link is alike to what it was before. -/
theorem alike_drainWithin (inbox : Inbox ε ι) (chunk attempts : Nat)
    (t : Turn ε) :
    Alike inbox t (drainWithin chunk attempts t).1 := by
  induction attempts generalizing t with
  | zero => exact .refl inbox t
  | succ attempts ih =>
      have hrefill := alike_refill inbox chunk t
      have hport {endpoint : ε} {answer : Except Fault Nat}
          (hanswer : Endpoint.write (t.refill chunk).endpoint
            (t.refill chunk).link.pending =
            (endpoint, answer)) :
            Alike inbox t { t.refill chunk with endpoint } := by
        have hwrite :=
          inbox.write_of (t.refill chunk).endpoint (t.refill chunk).link.pending
        rw [hanswer] at hwrite
        exact { hrefill with holds := hrefill.holds.trans hwrite.symm }
      unfold drainWithin
      dsimp only
      split
      · exact hrefill
      · split
        · next endpoint hanswer => exact hport hanswer
        · next endpoint n _ hanswer =>
            have hwrote :
                Alike inbox t (wrote n { t.refill chunk with endpoint }) :=
              { hport hanswer with }
            exact hwrote.trans (ih _)
        · next endpoint _ hanswer =>
            exact (hport hanswer).trans (alike_writeFailed inbox _)

/-- All that a drain changes is what is to be sent. -/
theorem alike_drain (inbox : Inbox ε ι) (chunk : Nat) (t : Turn ε) :
    Alike inbox t (t.drain chunk).1 := alike_drainWithin inbox chunk _ t

omit [Endpoint ε] in
/-- A policy that puts up with failed writes ends no link for them. -/
theorem exit_writeFailed (tolerant : t.link.policy.exitOnError = false) :
    t.writeFailed.2 = none := by
  have hnot : ¬ (t.count fun s =>
      { s with writeErrors := s.writeErrors + 1 }).link.policy.exitOnError =
        true := by
    rw [show (t.count _).link.policy = t.link.policy from rfl, tolerant]
    exact Bool.false_ne_true
  exact congrArg Prod.snd (if_neg hnot)

/-- A link that puts up with failed writes does not end by writing. -/
theorem exit_drainWithin (chunk attempts : Nat) {t : Turn ε}
    (tolerant : t.link.policy.exitOnError = false) :
    (drainWithin chunk attempts t).2 = none := by
  induction attempts generalizing t with
  | zero => rfl
  | succ attempts ih =>
      have hpolicy : (t.refill chunk).link.policy = t.link.policy :=
        (sameSide_refill chunk t).policy
      rw [← hpolicy] at tolerant
      unfold drainWithin
      dsimp only
      split
      · rfl
      · split
        · rfl
        · exact ih tolerant
        · exact exit_writeFailed tolerant

/-! ## Reading -/

/-- Alike links read the same. -/
theorem Alike.read (h : Alike inbox t t') (size : Nat) :
    Alike inbox (t.read size).1 (t'.read size).1 ∧
    (t.read size).2 = (t'.read size).2 := by
  have hread := inbox.read_of t.endpoint size
  have hread' := inbox.read_of t'.endpoint size
  rw [← h.holds, hread] at hread'
  obtain ⟨hholds, hanswer⟩ := Prod.mk.inj hread'
  unfold Turn.read
  generalize Endpoint.read t.endpoint size = result at hholds hanswer ⊢
  generalize Endpoint.read t'.endpoint size = result' at hholds hanswer ⊢
  obtain ⟨e, answer⟩ := result
  obtain ⟨e', answer'⟩ := result'
  dsimp only at hholds hanswer
  subst hanswer
  have hport :
      Alike inbox { t with endpoint := e } { t' with endpoint := e' } :=
    { h with holds := hholds }
  cases answer with
  | ok bytes =>
      exact ⟨hport.countSame
        (fun s => { s with bytesIn := s.bytesIn + bytes.length })
        fun _ => rfl, rfl⟩
  | error fault =>
      dsimp only
      split
      · exact ⟨hport, rfl⟩
      · exact ⟨hport.countSame
          (fun s => { s with readErrors := s.readErrors + 1 })
          fun _ => rfl, rfl⟩

/-- The same byte completes the same frame. -/
theorem Alike.decode (h : Alike inbox t t') (b : UInt8) :
    Alike inbox (t.decode b).1 (t'.decode b).1 ∧
    (t.decode b).2 = (t'.decode b).2 := by
  have hpush : t.link.decoder.push b = t'.link.decoder.push b := by
    rw [h.decoder]
  have hdecoder : Alike inbox
      { t with link := { t.link with decoder := (t.link.decoder.push b).1 } }
      { t' with
        link := { t'.link with decoder := (t'.link.decoder.push b).1 } } :=
    { h with decoder := congrArg Prod.fst hpush }
  unfold Turn.decode
  dsimp only
  rw [hpush] at hdecoder ⊢
  exact ⟨hdecoder.countSame _ fun _ => rfl, rfl⟩

/-- A verdict goes on record and is counted among what comes in. -/
theorem Alike.judge (h : Alike inbox t t') (f : Frame)
    (verdict : Except Refusal Unit) :
    Alike inbox (t.judge f verdict) (t'.judge f verdict) := by
  have hnote := h.note (.frame f verdict)
  cases verdict with
  | ok => exact hnote
  | error refusal =>
      exact hnote.countSame
        (fun s => { s with dispatchFailures := s.dispatchFailures + 1 })
        fun _ => rfl

/-! ## The other side -/

omit [Endpoint ε] in
/-- A heartbeat is counted; while the other side is there it moves the deadline
only. -/
theorem beat_eq_prolong (h : t.link.tracker.active = true) (now : Nat) :
    t.beat now = { t with link := { t.link with
      stats := { t.link.stats with heartbeats := t.link.stats.heartbeats + 1 }
      tracker := (t.link.tracker.heartbeat now).1 } } := by
  have hnot : ¬ (t.link.tracker.heartbeat now).2 = .activated := by
    rw [heartbeat_eq_activated_iff, h]
    simp
  exact if_neg hnot

omit [Endpoint ε] in
/-- A heartbeat while the other side is not there is a greeting. -/
theorem beat_eq_greet (h : t.link.tracker.active = false) (now : Nat) :
    t.beat now =
      (if t.link.policy.waitForHeartbeat then
        ((t.count fun s => { s with heartbeats := s.heartbeats + 1 }).greet
          now).setChannelActive true
      else (t.count fun s => { s with heartbeats := s.heartbeats + 1 }).greet
        now).note
        .activated := by
  have hbeat : t.beat now = activate { t with link := { t.link with
      stats := { t.link.stats with heartbeats := t.link.stats.heartbeats + 1 }
      tracker := (t.link.tracker.heartbeat now).1 } } := by
    have htransition : (t.link.tracker.heartbeat now).2 = .activated :=
      heartbeat_eq_activated_iff.mpr h
    exact if_pos htransition
  rw [hbeat]
  exact activate_eq now
    (t.count fun s => { s with heartbeats := s.heartbeats + 1 })

/-- Links that become active do so with the same events and the same flag. -/
theorem Alike.greet (h : Alike inbox t t') (now : Nat) :
    Alike inbox (t.greet now) (t'.greet now) := by
  have hactive : Alike inbox
      { t with link := { t.link with
          tracker := (t.link.tracker.heartbeat now).1, state := .active } }
      { t' with link := { t'.link with
          tracker := (t'.link.tracker.heartbeat now).1, state := .active } } :=
    { h with tracker := by rw [h.tracker], state := rfl }
  have hnote := hactive.note .raised
  exact { hnote with }

/-- Links that become idle do so with the same events and the same flag. -/
theorem Alike.miss (h : Alike inbox t t') (now : Nat) :
    Alike inbox (t.miss now) (t'.miss now) := by
  have hidle : Alike inbox
      { t with
        link :=
          { t.link with
            tracker := (t.link.tracker.poll now).1, state := .idle } }
      { t' with
        link :=
          { t'.link with
            tracker := (t'.link.tracker.poll now).1, state := .idle } } :=
    { h with tracker := by rw [h.tracker], state := rfl }
  have hnote := hidle.note .lowered
  exact { hnote with }

/-- Alike links take a heartbeat alike. -/
theorem Alike.beat (h : Alike inbox t t') (now : Nat) :
    Alike inbox (t.beat now) (t'.beat now) := by
  have hcount := h.countSame
      (fun s => { s with heartbeats := s.heartbeats + 1 }) fun _ => rfl
  cases hactive : t.link.tracker.active with
  | true =>
      have hactive' : t'.link.tracker.active = true := h.tracker ▸ hactive
      rw [beat_eq_prolong hactive, beat_eq_prolong hactive']
      exact { hcount with tracker := by rw [h.tracker] }
  | false =>
      have hactive' : t'.link.tracker.active = false := h.tracker ▸ hactive
      rw [beat_eq_greet hactive, beat_eq_greet hactive', ← h.policy]
      exact ((hcount.greet now).flagIf _ true).note .activated

omit [Endpoint ε] in
/-- A look at the clock that finds the other side gone. -/
theorem checkDeadline_of_deactivated {now : Nat}
    (hlate : (t.link.tracker.poll now).2 = .deactivated) :
    t.checkDeadline now =
      ((if t.link.policy.waitForHeartbeat
        then (t.miss now).setChannelActive false
          else t.miss now).note .idled,
        if t.link.policy.exitOnIdle then some .idle else none) := by
  unfold checkDeadline
  dsimp only
  rw [hlate]
  rfl

omit [Endpoint ε] in
/-- Whether a look at the clock ends the link. -/
theorem exit_checkDeadline (now : Nat) (t : Turn ε) :
    (t.checkDeadline now).2 =
      if (t.link.tracker.poll now).2 = .deactivated ∨
        (t.link.tracker.poll now).2 = .expired then
        if t.link.policy.exitOnIdle then some .idle else none
      else none := by
  unfold checkDeadline
  dsimp only
  split <;> simp_all

/-- The deadline is missed by both links or by neither. -/
theorem Alike.checkDeadline (h : Alike inbox t t') (now : Nat) :
    Alike inbox (t.checkDeadline now).1 (t'.checkDeadline now).1 ∧
      (t.checkDeadline now).2 = (t'.checkDeadline now).2 := by
  have hexit : (t.checkDeadline now).2 = (t'.checkDeadline now).2 := by
    rw [exit_checkDeadline, exit_checkDeadline, h.tracker, h.policy]
  refine ⟨?_, hexit⟩
  by_cases hlate : (t.link.tracker.poll now).2 = .deactivated
  · have hlate' : (t'.link.tracker.poll now).2 = .deactivated := by
      rwa [← h.tracker]
    rw [checkDeadline_of_deactivated hlate, checkDeadline_of_deactivated hlate',
      ← h.policy]
    exact ((h.miss now).flagIf _ false).note .idled
  · have hlate' : (t'.link.tracker.poll now).2 ≠ .deactivated := by
      rwa [← h.tracker]
    rwa [checkDeadline_eq hlate, checkDeadline_eq hlate']

/-! ## The end -/

/-- Both links are released, or both have been before. -/
theorem Alike.release (h : Alike inbox t t') :
    Alike inbox t.release t'.release := by
  by_cases hpast : t.link.state = .terminated
  · have hpast' : t'.link.state = .terminated := h.state ▸ hpast
    rwa [release_of_past hpast, release_of_past hpast']
  · have hpast' : t'.link.state ≠ .terminated := h.state ▸ hpast
    have hflag {s : Turn ε} (live : s.link.state ≠ .terminated) :
        s.release.flag = none := by
      unfold Turn.flag
      rw [holds_release live]
      rfl
    have hevents : t.release.events.map Event.inbound =
        t'.release.events.map Event.inbound := by
      by_cases hactive : t.link.state = .active
      · have hactive' : t'.link.state = .active := h.state ▸ hactive
        rw [(release_of_active hactive).2, (release_of_active hactive').2,
          List.map_append, List.map_append, h.events]
      · have hactive' : t'.link.state ≠ .active := h.state ▸ hactive
        rw [(release_of_not_active hactive).2,
          (release_of_not_active hactive').2, h.events]
    refine ⟨?_, ?_, ?_, ?_, ?_, ?_, ?_, ?_, ?_, hevents, ?_⟩
    · rw [endpoint_release, endpoint_release, h.holds]
    · rw [Link.channel, Link.channel, link_release, link_release]
      exact h.channel
    · rw [link_release, link_release]
      exact h.transport
    · rw [link_release, link_release]
      exact h.policy
    · rw [link_release, link_release]
      exact h.startedAt
    · rw [link_release, link_release]
      exact h.tracker
    · rw [link_release, link_release]
      exact h.decoder
    · rw [link_release, link_release]
    · rw [link_release, link_release]
      exact h.stats
    · rw [hflag hpast, hflag hpast']

/-- Alike links report the same, but for the bytes that they have sent. -/
theorem Alike.report (h : Alike inbox t t') (exit : Exit) (now : Nat) :
    (t.report exit now).inbound = (t'.report exit now).inbound := by
  have hbytes : t.link.stats.bytesIn = t'.link.stats.bytesIn := by
    have hstats := congrArg LinkStats.bytesIn h.stats
    exact hstats
  unfold Turn.report Report.inbound LinkStats.rxRate
  simp only [h.stats, h.startedAt, hbytes]

/-- The reports of the two links differ in the counters of sending at most. -/
theorem Alike.leave (h : Alike inbox t t') (exit : Exit) (cue : Cue) :
    AlikeStretch inbox (t.leave exit cue) (t'.leave exit cue) := by
  have hrelease := h.release
  have hreport := hrelease.report exit cue.now
  refine ⟨{ hrelease with events := ?_ }, rfl⟩
  rw [events_leave, events_leave, List.map_append, List.map_append,
    hrelease.events, List.map_cons, List.map_cons]
  simp only [Event.inbound, hreport]

/-! ## Stretches of work -/

/-- Ticks end alike once the same bytes have been decoded. -/
theorem Alike.endTick (h : Alike inbox t t') (now : Nat) (cue : Cue) :
    AlikeStretch inbox (t.endTick now cue) (t'.endTick now cue) := by
  have hcount : Alike inbox
      (t.count fun s =>
        { s with parseErrors := t.link.decoder.stats.parseErrors })
      (t'.count fun s =>
        { s with parseErrors := t'.link.decoder.stats.parseErrors }) := by
    rw [h.decoder]
    exact h.countSame _ fun _ => rfl
  obtain ⟨hcheck, hexit⟩ := hcount.checkDeadline now
  have htracker := hcount.tracker
  unfold Turn.endTick
  dsimp only
  rw [← htracker]
  generalize (t.count _).checkDeadline now = result at hcheck hexit ⊢
  generalize (t'.count _).checkDeadline now = result' at hcheck hexit ⊢
  obtain ⟨t₁, exit⟩ := result
  obtain ⟨t₁', exit'⟩ := result'
  dsimp only at hexit
  subst hexit
  generalize ((t.count _).link.tracker.poll now).2 = transition
  cases transition with
  | deactivated => exact ⟨hcheck, rfl⟩
  | _ =>
      cases exit with
      | none => exact ⟨hcheck, rfl⟩
      | some exit => exact hcheck.leave exit cue

/-- Alike links decode up to the same frame. -/
theorem Alike.takeIn (h : Alike inbox t t') (now : Nat) (cue : Cue)
    (bytes : Bytes) :
    AlikeStretch inbox (t.takeIn now cue bytes) (t'.takeIn now cue bytes) := by
  induction bytes generalizing t t' with
  | nil => exact h.endTick now cue
  | cons b rest ih =>
      obtain ⟨hdecode, hframe⟩ := h.decode b
      unfold Turn.takeIn
      generalize t.decode b = result at hdecode hframe ⊢
      generalize t'.decode b = result' at hdecode hframe ⊢
      obtain ⟨t₁, frame⟩ := result
      obtain ⟨t₁', frame'⟩ := result'
      dsimp only at hframe
      subst hframe
      cases frame with
      | none => exact ih hdecode
      | some f => exact ⟨hdecode, rfl⟩

/-- The same verdict on the same frame comes to the same. -/
theorem Alike.weigh (h : Alike inbox t t') (now : Nat) (f : Frame)
    (rest : Bytes) (cue : Cue) :
    AlikeStretch inbox (t.weigh now f rest cue) (t'.weigh now f rest cue) := by
  have hjudge := h.judge f cue.verdict
  have hbeat := hjudge.beat now
  unfold Turn.weigh
  dsimp only
  rw [← hjudge.tracker]
  split
  · split
    · exact hbeat.takeIn now cue rest
    · exact ⟨hbeat, rfl⟩
  · exact hjudge.takeIn now cue rest

omit [Endpoint ε] in
/-- A link sees a flag as long as it has its channel. -/
theorem isSome_flag (t : Turn ε) :
    t.flag.isSome = t.board.pool.holds t.link.claim := by
  unfold flag
  cases t.board.pool.holds t.link.claim <;> rfl

/-- **A tick begins.**  Whatever comes of the bytes that wait to be sent, what
is read is the same. -/
theorem Alike.startTick (h : Alike inbox t t')
    (tolerant : t.link.policy.exitOnError = false) (config : LinkConfig)
    (cue : Cue) :
    AlikeStretch inbox (t.startTick config cue) (t'.startTick config cue) := by
  have hheld : t.board.pool.holds t.link.claim =
      t'.board.pool.holds t'.link.claim := by
    rw [← isSome_flag, ← isSome_flag, h.flag]
  have tolerant' : t'.link.policy.exitOnError = false := h.policy ▸ tolerant
  have hdrain : Alike inbox (t.drain config.writeChunk).1
      (t'.drain config.writeChunk).1 :=
    (alike_drain inbox _ t).symm.trans (h.trans (alike_drain inbox _ t'))
  have hnone : (t.drain config.writeChunk).2 = none :=
    exit_drainWithin _ _ tolerant
  have hnone' : (t'.drain config.writeChunk).2 = none :=
    exit_drainWithin _ _ tolerant'
  unfold Turn.startTick
  rw [← hheld]
  split
  · exact h.leave .evicted cue
  · generalize t.drain config.writeChunk = result at hdrain hnone ⊢
    generalize t'.drain config.writeChunk = result' at hdrain hnone' ⊢
    obtain ⟨t₁, exit⟩ := result
    obtain ⟨t₁', exit'⟩ := result'
    dsimp only at hnone hnone'
    subst hnone hnone'
    obtain ⟨hread, hanswer⟩ := hdrain.read config.readBuffer
    dsimp only at hread hanswer ⊢
    generalize t₁.read config.readBuffer = result at hread hanswer ⊢
    generalize t₁'.read config.readBuffer = result' at hread hanswer ⊢
    obtain ⟨t₂, answer⟩ := result
    obtain ⟨t₂', answer'⟩ := result'
    dsimp only at hanswer
    subst hanswer
    cases answer with
    | error exit => exact hread.leave exit cue
    | ok bytes => exact hread.takeIn cue.now cue bytes

/-- **Alike links go on alike.** -/
theorem Alike.resume (h : Alike inbox t t')
    (tolerant : t.link.policy.exitOnError = false) (config : LinkConfig)
    (cue : Cue) (stand : Stand) :
    AlikeStretch inbox (t.resume config cue stand)
      (t'.resume config cue stand) := by
  cases stand with
  | connected => exact ⟨h.begin, rfl⟩
  | beginning => exact ⟨h, rfl⟩
  | waiting => exact h.startTick tolerant config cue
  | judging now f rest => exact h.weigh now f rest cue
  | greeting now rest => exact h.takeIn now cue rest
  | parting exit =>
      cases exit with
      | none => exact ⟨h, rfl⟩
      | some exit => exact h.leave exit cue
  | ending => exact ⟨h, rfl⟩
  | finished => exact ⟨h, rfl⟩

end Turn

namespace Traffic

variable {ε ι : Type} [Endpoint ε] {inbox : Inbox ε ι} {k k' : Nat}
  {w w' : Traffic ε} {c c' : Course ε}

/-- Link `k` of one traffic and link `k'` of another are alike but for what they
send, and their policies put up with failed writes. -/
structure Alike (inbox : Inbox ε ι) (k k' : Nat) (w w' : Traffic ε)
    (c c' : Course ε) : Prop where
  here : w.courses[k]? = some c
  there : w'.courses[k']? = some c'
  turn : Turn.Alike inbox (c.turn w.board) (c'.turn w'.board)
  stand : c.stand = c'.stand
  config : c.config = c'.config
  tolerant : c.link.policy.exitOnError = false

/-- Neither of the two traffics comes first. -/
theorem Alike.symm (h : Alike inbox k k' w w' c c') :
    Alike inbox k' k w' w c' c where
  here := h.there
  there := h.here
  turn := h.turn.symm
  stand := h.stand.symm
  config := h.config.symm
  tolerant := by
    have hpolicy : c.link.policy = c'.link.policy := h.turn.policy
    rw [← hpolicy]
    exact h.tolerant

omit [Endpoint ε] in
/-- What link `k` has become by its own work. -/
theorem course_commit {c : Course ε} (hk : w.courses[k]? = some c) (t : Turn ε)
    (stand : Stand) :
    (w.commit k c t stand).courses[k]? = some (c.after t stand) := by
  rw [courses_commit hk, if_pos rfl]

/-- Alike links go on alike. -/
theorem Alike.resume (h : Alike inbox k k' w w' c c') (cue : Cue) :
    ∃ c₁ c₁', Alike inbox k k' (w.act (.resume k cue))
      (w'.act (.resume k' cue)) c₁ c₁' := by
  obtain ⟨hturn, hstand⟩ := h.turn.resume h.tolerant c.config cue c.stand
  rw [act_resume h.here, act_resume h.there, ← h.config, ← h.stand]
  refine ⟨_, _, course_commit h.here _ _, course_commit h.there _ _, hturn,
    hstand, h.config, ?_⟩
  have hpolicy :=
    (Turn.since_resume c.config cue c.stand (c.turn w.board)).same.2.1
  exact (congrArg Policy.exitOnError hpolicy).trans h.tolerant

/-- Alike links are dropped alike. -/
theorem Alike.drop (h : Alike inbox k k' w w' c c') :
    ∃ c₁ c₁',
      Alike inbox k k' (w.act (.drop k)) (w'.act (.drop k')) c₁ c₁' := by
  rw [act_drop h.here, act_drop h.there]
  refine ⟨_, _, course_commit h.here _ _, course_commit h.there _ _,
    h.turn.release, rfl, h.config, ?_⟩
  have hpolicy :=
    congrArg (·.policy.exitOnError) (Turn.link_release (c.turn w.board))
  exact hpolicy.trans h.tolerant

/-- What is not the link's own doing changes its endpoint at most. -/
theorem course_act_of_not_own {a : Act ε} (hk : w.courses[k]? = some c)
    (hother : (a.own? k : Option (Circumstance ι)) = none) :
    ∃ endpoint, (w.act a).courses[k]? = some { c with endpoint } := by
  rcases course_act hk a with hsame | ⟨t, stand, hwork, _, hk'⟩
  · exact ⟨c.endpoint, hsame⟩
  · cases hwork with
    | resume cue => simp [Act.own?] at hother
    | drop => simp [Act.own?] at hother
    | far f => exact ⟨f c.endpoint, hk'⟩

/-- What a link sees is its inbox and the flag of its channel. -/
theorem sight_eq (hk : w.courses[k]? = some c) :
    w.sight inbox k = some (inbox.of c.endpoint, (c.turn w.board).flag) := by
  unfold sight
  rw [hk]
  rfl

/-- **What happens around a link** leaves it alike to the other, if the two can
see the same then. -/
theorem Alike.around {w₁ w₁' : Traffic ε} {endpoint endpoint' : ε}
    (h : Alike inbox k k' w w' c c')
    (hk : w₁.courses[k]? = some { c with endpoint })
    (hk' : w₁'.courses[k']? = some { c' with endpoint := endpoint' })
    (hsight : w₁.sight inbox k = w₁'.sight inbox k') :
    Alike inbox k k' w₁ w₁' { c with endpoint } { c' with
                                                  endpoint := endpoint' } := by
  rw [sight_eq hk, sight_eq hk'] at hsight
  obtain ⟨hholds, hflag⟩ := Prod.mk.inj (Option.some.inj hsight)
  exact ⟨hk, hk', { h.turn with holds := hholds, flag := hflag }, h.stand,
    h.config, h.tolerant⟩

/-- Alike links see the same. -/
theorem Alike.sight (h : Alike inbox k k' w w' c c') :
    w.sight inbox k = w'.sight inbox k' := by
  have hholds : inbox.of c.endpoint = inbox.of c'.endpoint := h.turn.holds
  rw [sight_eq h.here, sight_eq h.there, hholds, h.turn.flag]

section

variable [DecidableEq ι]

/-- What an act is, given what link `k` gets to know by it. -/
def Tells (inbox : Inbox ε ι) (k : Nat) (w : Traffic ε) (a : Act ε) :
    Option (Circumstance ι) → Prop
  | some (.goes cue) => a = .resume k cue
  | some .dropped => a = .drop k
  | some (.finds holds flag) => (a.own? k : Option (Circumstance ι)) = none ∧
      (w.act a).sight inbox k = some (holds, flag)
  | none => (a.own? k : Option (Circumstance ι)) = none ∧
      (w.act a).sight inbox k = w.sight inbox k

/-- A link gets to know what it is made to do itself, or else what it can see
then, if that is something new. -/
theorem tells_circumstance (hk : w.courses[k]? = some c) (a : Act ε) :
    Tells inbox k w a (w.circumstance inbox k a) := by
  unfold circumstance
  cases hown : (a.own? k : Option (Circumstance ι)) with
  | none =>
      obtain ⟨endpoint, hk'⟩ := course_act_of_not_own hk hown
      by_cases hsame : (w.act a).sight inbox k = w.sight inbox k
      · simp only [if_pos hsame]
        exact ⟨hown, hsame⟩
      · simp only [if_neg hsame]
        rw [sight_eq hk']
        exact ⟨hown, sight_eq hk'⟩
  | some x =>
      cases a with
      | resume j cue =>
          simp only [Act.own?, Option.ite_none_right_eq_some, Option.some.injEq]
            at hown
          obtain ⟨rfl, rfl⟩ := hown
          rfl
      | drop j =>
          simp only [Act.own?, Option.ite_none_right_eq_some, Option.some.injEq]
            at hown
          obtain ⟨rfl, rfl⟩ := hown
          rfl
      | _ => cases hown

/-- An act that is nothing to a link leaves it as it was to every other. -/
theorem Alike.quiet (h : Alike inbox k k' w w' c c') {a : Act ε}
    (hquiet : w.circumstance inbox k a = none) :
    ∃ c₁, Alike inbox k k' (w.act a) w' c₁ c' := by
  have htells : Tells inbox k w a none := hquiet ▸ tells_circumstance h.here a
  obtain ⟨hother, hsame⟩ := htells
  obtain ⟨endpoint, hk⟩ := course_act_of_not_own h.here hother
  exact ⟨_, h.around hk h.there (hsame.trans h.sight)⟩

/-- Acts that are nothing to a link leave it as it was to every other. -/
theorem Alike.quietRun (h : Alike inbox k k' w w' c c') {acts : List (Act ε)}
    (hquiet : w.circumstances inbox k acts = []) :
    ∃ c₁, Alike inbox k k' (w.run acts) w' c₁ c' := by
  induction acts generalizing w c with
  | nil => exact ⟨c, h⟩
  | cons a acts ih =>
      obtain ⟨hfirst, hrest⟩ := List.append_eq_nil_iff.mp hquiet
      obtain ⟨c₁, h₁⟩ := h.quiet (Option.toList_eq_nil_iff.mp hfirst)
      exact ih h₁ hrest

/-- **Alike links that get to know the same** do alike. -/
theorem Alike.act (h : Alike inbox k k' w w' c c') {a a' : Act ε}
    {x : Circumstance ι} (hx : w.circumstance inbox k a = some x)
    (hx' : w'.circumstance inbox k' a' = some x) :
    ∃ c₁ c₁', Alike inbox k k' (w.act a) (w'.act a') c₁ c₁' := by
  have htells : Tells inbox k w a (some x) := hx ▸ tells_circumstance h.here a
  have htells' : Tells inbox k' w' a' (some x) :=
    hx' ▸ tells_circumstance h.there a'
  cases x with
  | goes cue =>
      obtain rfl : a = .resume k cue := htells
      obtain rfl : a' = .resume k' cue := htells'
      exact h.resume cue
  | dropped =>
      obtain rfl : a = .drop k := htells
      obtain rfl : a' = .drop k' := htells'
      exact h.drop
  | finds holds flag =>
      obtain ⟨hother, hsight⟩ := htells
      obtain ⟨hother', hsight'⟩ := htells'
      obtain ⟨endpoint, hk⟩ := course_act_of_not_own h.here hother
      obtain ⟨endpoint', hk'⟩ := course_act_of_not_own h.there hother'
      exact ⟨_, _, h.around hk hk' (hsight.trans hsight'.symm)⟩

/-- Where a link gets to know something for the first time. -/
theorem exists_first {acts : List (Act ε)} {x : Circumstance ι}
    {later : List (Circumstance ι)}
    (h : w.circumstances inbox k acts = x :: later) :
    ∃ quiet a rest, acts = quiet ++ a :: rest ∧
      w.circumstances inbox k quiet = [] ∧
      (w.run quiet).circumstance inbox k a = some x ∧
      (w.run (quiet ++ [a])).circumstances inbox k rest = later := by
  induction acts generalizing w with
  | nil => cases h
  | cons a acts ih =>
      cases ha : w.circumstance inbox k a with
      | none =>
          simp only [circumstances, ha, Option.toList_none, List.nil_append]
            at h
          obtain ⟨quiet, b, rest, rfl, hquiet, hb, hlater⟩ := ih h
          refine ⟨a :: quiet, b, rest, rfl, ?_, hb, hlater⟩
          simp [circumstances, ha, hquiet]
      | some y =>
          simp only [circumstances, ha, Option.toList_some,
            List.singleton_append, List.cons.injEq] at h
          obtain ⟨rfl, hlater⟩ := h
          exact ⟨[], a, acts, rfl, rfl, ha, hlater⟩

/-- **Two runs in which alike links get to know the same** leave them alike,
whatever else happens in either, and when. -/
theorem Alike.run (h : Alike inbox k k' w w' c c') {acts acts' : List (Act ε)}
    (hsame : w.circumstances inbox k acts = w'.circumstances inbox k' acts') :
    ∃ c₁ c₁', Alike inbox k k' (w.run acts) (w'.run acts') c₁ c₁' := by
  induction acts generalizing w w' c c' acts' with
  | nil =>
      obtain ⟨c₁', h₁⟩ := h.symm.quietRun hsame.symm
      exact ⟨c, c₁', h₁.symm⟩
  | cons a acts ih =>
      cases ha : w.circumstance inbox k a with
      | none =>
          obtain ⟨c₁, h₁⟩ := h.quiet ha
          simp only [circumstances, ha, Option.toList_none, List.nil_append]
            at hsame
          exact ih h₁ hsame
      | some x =>
          -- the other run comes to the same point after some acts that are
          -- nothing to its link
          simp only [circumstances, ha, Option.toList_some,
            List.singleton_append] at hsame
          obtain ⟨quiet, a', rest, rfl, hquiet, ha', hrest⟩ :=
            exists_first hsame.symm
          obtain ⟨c₁', h₁⟩ := h.symm.quietRun hquiet
          obtain ⟨c₂, c₂', h₂⟩ := h₁.symm.act ha ha'
          rw [run_append, run_cons, run_nil] at hrest
          rw [run_append, run_cons]
          exact ih h₂ hrest.symm

end

/-! ## What others notice of it -/

/-- Alike links count alike, whatever the count is. -/
theorem Alike.count (h : Alike inbox k k' w w' c c') (hw : w.Counted)
    (hw' : w'.Counted) {a a' : Act ε} {t t' : Turn ε} {stand stand' : Stand}
    (hwork : Work k c w.board a t stand)
    (hwork' : Work k' c' w'.board a' t' stand')
    (hstate : t.link.state = t'.link.state) :
    t.board.active.links + w'.active.links = t'.board.active.links +
      w.active.links := by
  have hcount := (hw.work h.here hwork).2
  have hcount' := (hw'.work h.there hwork').2
  have hbefore : (c.turn w.board).weight = (c'.turn w'.board).weight := by
    unfold Turn.weight
    rw [h.turn.state]
  have hafter : t.weight = t'.weight := by
    unfold Turn.weight
    rw [hstate]
  have hlinks : (c.turn w.board).board.active.links = w.active.links := rfl
  have hlinks' : (c'.turn w'.board).board.active.links = w'.active.links := rfl
  unfold Turn.CountsTo at hcount hcount'
  omega

/-- Link `k` of one traffic and link `k'` of another have done the same by now,
and would do the same to the count of active links next. -/
structure SameConduct (k k' : Nat) (w w' : Traffic ε) (c c' : Course ε) :
    Prop where
  state : c.link.state = c'.link.state
  /-- Whether the other side is there, and until when. -/
  tracker : c.link.tracker = c'.link.tracker
  /-- Where they wait, and whether and why they are about to end. -/
  stand : c.stand = c'.stand
  /-- What they have told their handlers and asked of the scheduler, and what
  they have reported but for the bytes that they have sent. -/
  told : c.events.map Event.inbound = c'.events.map Event.inbound
  /-- The frames that their handlers have decided on. -/
  frames : c.events.filterMap Event.frame? = c'.events.filterMap Event.frame?
  /-- Whether they still have their channels, and whether these are active. -/
  flag : (c.turn w.board).flag = (c'.turn w'.board).flag
  goesOn : ∀ cue, (w.act (.resume k cue)).active.links + w'.active.links =
    (w'.act (.resume k' cue)).active.links + w.active.links
  isDropped : (w.act (.drop k)).active.links + w'.active.links =
    (w'.act (.drop k')).active.links + w.active.links

omit [Endpoint ε] in
/-- The frames on record are on record without the counters, too. -/
theorem frames_inbound (events : List Event) :
    (events.map Event.inbound).filterMap Event.frame? =
      events.filterMap Event.frame? := by
  rw [List.filterMap_map]
  congr 1
  funext e
  cases e <;> rfl

/-- What alike links have done is the same conduct. -/
theorem Alike.sameConduct (h : Alike inbox k k' w w' c c') (hw : w.Counted)
    (hw' : w'.Counted) :
    SameConduct k k' w w' c c' where
  state := h.turn.state
  tracker := h.turn.tracker
  stand := h.stand
  told := h.turn.events
  frames := by
    have hevents : c.events.map Event.inbound = c'.events.map Event.inbound :=
      h.turn.events
    rw [← frames_inbound, hevents, frames_inbound]
  flag := h.turn.flag
  goesOn := by
    intro cue
    obtain ⟨hturn, _⟩ := h.turn.resume h.tolerant c.config cue c.stand
    rw [act_resume h.here, act_resume h.there]
    refine h.count hw hw' (.resume cue) (.resume cue) ?_
    rw [← h.config, ← h.stand]
    exact hturn.state
  isDropped := by
    rw [act_drop h.here, act_drop h.there]
    exact h.count hw hw' .drop .drop h.turn.release.state

/-- Links that have been connected a moment ago are alike if they have been told
the same and their inboxes hold the same. -/
theorem Sound.alike_connect (h : w.Sound) (h' : w'.Sound) {name name' : String}
    {policy : Policy} {config : LinkConfig} {now : Nat} {endpoint endpoint' : ε}
    (tolerant : policy.exitOnError = false)
    (hholds : inbox.of endpoint = inbox.of endpoint')
    (htransport : Endpoint.transport endpoint = Endpoint.transport endpoint')
    (hc :
      (w.act
        (.connect name policy config now endpoint)).courses[w.courses.length]? =
          some c)
    (hc' :
      (w'.act
        (.connect name' policy config now
          endpoint')).courses[w'.courses.length]? = some c')
    (hchannel : c.link.channel = c'.link.channel) :
    Alike inbox w.courses.length w'.courses.length
      (w.act (.connect name policy config now endpoint))
      (w'.act (.connect name' policy config now endpoint')) c c' := by
  have hflag {v : Traffic ε} (hv : v.Sound) {pool : Pool} {claim : Claim}
      (hclaim : v.downlink.pool.claim = (pool, some claim)) :
      pool.holds claim = true ∧ pool.isActive claim.index = false := by
    obtain ⟨_, _, _, s, hs, hgen, hocc, _⟩ := hv.fresh hclaim
    have hinactive := hv.pool.not_isActive_claim (congrArg Prod.snd hclaim)
    rw [hclaim] at hinactive
    exact ⟨by simp [Pool.holds, hs, Slot.isHeldAs, hgen, hocc], hinactive⟩
  refine ⟨hc, hc', ?_, ?_, ?_, ?_⟩
  all_goals
    obtain ⟨pool, claim, hclaim, rfl, hboard⟩ := act_connect hc
    obtain ⟨pool', claim', hclaim', rfl, hboard'⟩ := act_connect hc'
  · refine ⟨hholds, hchannel, htransport, rfl, rfl, rfl, rfl, rfl, rfl, rfl, ?_⟩
    obtain ⟨held, hinactive⟩ := hflag h hclaim
    obtain ⟨held', hinactive'⟩ := hflag h' hclaim'
    rw [hboard, hboard']
    have hnone : some (pool.isActive claim.index) =
        some (pool'.isActive claim'.index) := by
      rw [hinactive, hinactive']
    exact (if_pos held).trans (hnone.trans (if_pos held').symm)
  · rfl
  · rfl
  · exact tolerant

end Traffic

/-- **What becomes of what a link sends makes no difference to what it hears.**
Take two links whose policies put up with failed writes, in two traffics that
need have nothing else in common: connected at the same time, with the same
settings, to channels of the same number, over endpoints whose inboxes hold the
same and answer reads by themselves.  Let anything happen to the one and to the
other, as long as both get to know the same (`Traffic.circumstances`): they go
on at the same times with the same decisions of their handlers, what comes into
their inboxes is the same, they lose their channels or not, and nobody else sets
the flags of these differently.  (So it is in any two runs in which the same
comes to both from outside: `Traffic.Alike.circumstances_eq`.)  What is
published, what waits to be sent and how writes fare can be different
throughout.  Then both do the same. -/
theorem conduct_independent_of_sending {ε ι : Type} [Endpoint ε] [DecidableEq ι]
    (inbox : Inbox ε ι) {channels channels' queueCapacity queueCapacity' : Nat}
    {d d' : Downlink}
    (hcreate : Pool.create? channels queueCapacity = some d.pool)
    (hcreate' : Pool.create? channels' queueCapacity' = some d'.pool)
    (before before' : List (Act ε)) (name name' : String) (config : LinkConfig)
    (now : Nat) {policy : Policy} (tolerant : policy.exitOnError = false)
    {endpoint endpoint' : ε} (hholds : inbox.of endpoint = inbox.of endpoint')
    (htransport : Endpoint.transport endpoint = Endpoint.transport endpoint')
    {c₀ c₀' : Course ε}
    (hc :
      (((Traffic.start d).run before).act
        (.connect name policy config now endpoint)).courses[
          ((Traffic.start (ε := ε) d).run before).courses.length]? = some c₀)
    (hc' :
      (((Traffic.start d').run before').act
        (.connect name' policy config now endpoint')).courses[
          ((Traffic.start (ε := ε) d').run before').courses.length]? = some c₀')
    (hchannel : c₀.link.channel = c₀'.link.channel)
    (acts acts' : List (Act ε)) :
    let k := ((Traffic.start (ε := ε) d).run before).courses.length
    let k' := ((Traffic.start (ε := ε) d').run before').courses.length
    let w :=
      ((Traffic.start d).run before).act
        (.connect name policy config now endpoint)
    let w' :=
      ((Traffic.start d').run before').act
        (.connect name' policy config now endpoint')
    w.circumstances inbox k acts = w'.circumstances inbox k' acts' →
      ∃ c c', (w.run acts).courses[k]? = some c ∧
        (w'.run acts').courses[k']? = some c' ∧
        Traffic.SameConduct k k' (w.run acts) (w'.run acts') c c' := by
  intro k k' w w' hsame
  have hsound : ((Traffic.start (ε := ε) d).run before).Sound :=
    (Traffic.sound_start hcreate).run before
  have hsound' : ((Traffic.start (ε := ε) d').run before').Sound :=
    (Traffic.sound_start hcreate').run before'
  have hcounted : w.Counted := ((Traffic.counted_start d).run before).act _
  have hcounted' : w'.Counted := ((Traffic.counted_start d').run before').act _
  have halike : Traffic.Alike inbox k k' w w' c₀ c₀' :=
    hsound.alike_connect hsound' tolerant hholds htransport hc hc' hchannel
  obtain ⟨c, c', hrun⟩ := halike.run hsame
  exact ⟨c, c', hrun.here, hrun.there, hrun.sameConduct (hcounted.run acts)
    (hcounted'.run acts')⟩

deriving instance DecidableEq for Cue
deriving instance DecidableEq for Circumstance

/-- The link becomes active and is sent more than it can write: one byte goes
out at a time, then writes fail.  No other heartbeat comes. -/
def struggling : List (Act Pipe) :=
  [going 0, going 0, .far 0 fun p => { p with writeLimit := some 1 }, beating,
    going 5, going 5, going 5, .ask (.publish [1, 2, 3, 4, 5]), going 10,
    .far 0 fun p => { p with failWrites := true }, .ask (.publish [6, 7]),
    going 16, going 16]

/-- The same without anything to write. -/
def unburdened : List (Act Pipe) :=
  [going 0, going 0, beating, going 5, going 5, going 5, going 10, going 16,
    going 16]

/-- Both find the other side gone at 16, though one of them has been struggling
with its writes. -/
theorem struggling_in_time :
    awaiting.circumstances Pipe.inbox 0 struggling =
        awaiting.circumstances Pipe.inbox 0 unburdened ∧
      ∃ c c', (awaiting.run struggling).courses[0]? = some c ∧
        (awaiting.run unburdened).courses[0]? = some c' ∧
        Traffic.SameConduct 0 0 (awaiting.run struggling)
          (awaiting.run unburdened) c c' ∧
        c.link.state = .idle ∧ c.link.stats.writeErrors = 1 ∧
        c'.link.stats.writeErrors = 0 := by
  have hcreate : Pool.create? 1 4 = some (Downlink.single 4).pool := rfl
  have hsame : awaiting.circumstances Pipe.inbox 0 struggling =
      awaiting.circumstances Pipe.inbox 0 unburdened := by decide +kernel
  have hvalues : (awaiting.run struggling).courses[0]?.map
      (fun c => (c.link.state, c.link.stats.writeErrors)) =
        some (.idle, 1) := by decide +kernel
  have hvalues' : (awaiting.run unburdened).courses[0]?.map
      (·.link.stats.writeErrors) = some 0 := by
    decide +kernel
  have htolerant : ({} : Policy).exitOnError = false := rfl
  have hconnected : awaiting.courses[0]? = some _ := rfl
  obtain ⟨c, c', hc, hc', hconduct⟩ :=
    conduct_independent_of_sending Pipe.inbox hcreate hcreate []
    [] "gcs" "gcs" { heartbeatTimeout := 10 } 0 htolerant rfl rfl hconnected
      hconnected
    rfl struggling unburdened hsame
  have hcourse : (awaiting.run struggling).courses[0]? = some c := hc
  have hcourse' : (awaiting.run unburdened).courses[0]? = some c' := hc'
  rw [hcourse] at hvalues
  rw [hcourse'] at hvalues'
  obtain ⟨hidle, herrors⟩ := Prod.mk.inj (Option.some.inj hvalues)
  exact ⟨hsame, c, c', hcourse, hcourse', hconduct, hidle, herrors,
    Option.some.inj hvalues'⟩

end GroundLink
