import GroundLink.Port.Pipe
import GroundLink.Proofs.Link.Elsewhere
import GroundLink.Proofs.Link.Presence

/-!
# Heartbeats decide

What the diary of a link says is what the link's state is, what its handler is
told and whether its channel is active (`state_follows_heartbeats`).  The state
and the handler are the subject of `Keeping`; here the flag of the channel is
added.

A link that waits for heartbeats sets the flag with its state, in the same
stretch of work, and any other link sets it when it begins (`Turn.Flagged`).
The flag then stays as it is, whatever else happens, as long as the link holds
the channel and nobody else sets it (`Sound.flagged_act`).
-/

namespace GroundLink

namespace Turn

variable {ε : Type} {t t' : Turn ε} {begun : Bool}

/-- While the link holds its channel, the channel is active as the policy has
it: as long as the link is, or from its beginning on. -/
def Flagged (begun : Bool) (t : Turn ε) : Prop :=
  t.board.pool.holds t.link.claim = true →
    t.board.pool.isActive t.link.channel =
      if t.link.policy.waitForHeartbeat then t.link.state == .active else begun

/-- A step that leaves claim, policy and state alone leaves the flag right,
unless it sets the flag or wins the channel back. -/
theorem Flagged.of_same (h : t.Flagged begun)
    (hclaim : t'.link.claim = t.link.claim)
    (hpolicy : t'.link.policy = t.link.policy)
    (hstate : t'.link.state = t.link.state)
    (hholds : t'.board.pool.holds t.link.claim = true →
      t.board.pool.holds t.link.claim = true)
    (hactive : t'.board.pool.holds t.link.claim = true → t'.board.pool.isActive
      t.link.channel = t.board.pool.isActive t.link.channel) :
    t'.Flagged begun := by
  intro held
  unfold Link.channel at hactive ⊢
  rw [hclaim] at held ⊢
  rw [hpolicy, hstate, hactive held]
  exact h (hholds held)

/-- What does not concern the other side does not touch the flag. -/
theorem Flagged.sameSide (h : t.Flagged begun) (hsame : SameSide t t') :
    t'.Flagged begun :=
  h.of_same hsame.claim hsame.policy hsame.state
    (fun held => (hsame.holds _).symm.trans held)
    fun _ => hsame.isActive _

/-- The link's own hand on the flag. -/
theorem flagged_setChannelActive {active : Bool}
    (hactive : active = if t.link.policy.waitForHeartbeat then t.link.state ==
      .active else begun) :
    (t.setChannelActive active).Flagged begun := by
  intro held
  have hheld : t.board.pool.holds t.link.claim = true :=
    (t.board.pool.holds_setClaimActive t.link.claim active
      t.link.claim).symm.trans held
  exact (Pool.isActive_setClaimActive hheld active).trans hactive

/-- A link that sets the flag on a condition is flagged, if it was or the flag
is set as it should be. -/
theorem flagged_of_wait (active : Bool) {t : Turn ε}
    (hwait : t.link.policy.waitForHeartbeat = true →
      active = (t.link.state == .active))
    (hnot : t.link.policy.waitForHeartbeat = false → t.Flagged begun) :
    (if t.link.policy.waitForHeartbeat then t.setChannelActive active
      else t).Flagged begun := by
  cases h : t.link.policy.waitForHeartbeat with
  | true =>
      rw [if_pos rfl]
      apply flagged_setChannelActive
      rw [h, if_pos rfl]
      exact hwait h
  | false => exact hnot h

/-- Without heartbeats to wait for, the state does not matter. -/
theorem Flagged.of_not_wait (h : t.Flagged begun)
    (hnot : t.link.policy.waitForHeartbeat = false)
    (hclaim : t'.link.claim = t.link.claim)
    (hpolicy : t'.link.policy = t.link.policy)
    (hpool : t'.board.pool = t.board.pool) : t'.Flagged begun := by
  intro held
  unfold Link.channel
  rw [hclaim, hpool] at held ⊢
  rw [hpolicy, hnot]
  have hflag := h held
  rw [hnot] at hflag
  exact hflag

/-- An event on record is no flag. -/
theorem Flagged.note (h : t.Flagged begun) (e : Event) :
    (t.note e).Flagged begun := h

/-- A link that does not wait for a heartbeat activates its channel when
it begins. -/
theorem Flagged.begin (h : t.Flagged false) : t.begin.Flagged true := by
  have hsame :=
    t.board.pool.sameAt_setOwner t.link.channel t.link.channel t.link.name
  unfold Turn.begin
  dsimp only
  refine Flagged.note ?_ _
  cases hwait : t.link.policy.waitForHeartbeat with
  | true =>
      intro held
      have hflag := h (hsame.holds.symm.trans held)
      rw [hwait, if_pos rfl] at hflag
      simp only [if_true, hwait]
      exact hsame.isActive.trans hflag
  | false =>
      apply flagged_setChannelActive
      simp [hwait]

/-- With the first heartbeat the link becomes active, and so does a channel that
waited for it. -/
theorem Flagged.activate (h : t.Flagged true) (now : Nat) :
    (Turn.activate { t with
      link := { t.link with tracker := (t.link.tracker.heartbeat now).1 }
        }).Flagged true := by
  rw [activate_eq]
  refine Flagged.note ?_ _
  refine flagged_of_wait true (t := t.greet now) (fun _ => rfl) ?_
  intro hnot
  exact h.of_not_wait hnot rfl rfl rfl

/-- A heartbeat of a link that is active already changes no flag. -/
theorem Flagged.beat (h : t.Flagged true) (now : Nat) :
    (t.beat now).Flagged true := by
  have hcount :
      (t.count fun s => { s with heartbeats := s.heartbeats + 1 }).Flagged
        true := h
  unfold Turn.beat
  dsimp only
  split
  · exact hcount.activate now
  · exact hcount.of_same rfl rfl rfl id fun _ => rfl

/-- A missed deadline takes the flag of a channel that waits for heartbeats, and
of no other. -/
theorem Flagged.checkDeadline (h : t.Flagged true) (now : Nat) :
    (t.checkDeadline now).1.Flagged true := by
  by_cases hgone : (t.link.tracker.poll now).2 = .deactivated
  · have hcheck : (t.checkDeadline now).1 =
        (if t.link.policy.waitForHeartbeat
          then (t.miss now).setChannelActive false
          else t.miss now).note .idled := by
      unfold Turn.checkDeadline
      dsimp only
      rw [hgone]
      rfl
    rw [hcheck]
    refine Flagged.note ?_ _
    refine flagged_of_wait false (t := t.miss now) (fun _ => rfl) ?_
    intro hnot
    exact h.of_not_wait hnot rfl rfl rfl
  · rw [checkDeadline_eq hgone]
    exact h

/-- The end gives the channel back, if it has not been given back before. -/
theorem Flagged.release (h : t.Flagged begun) : t.release.Flagged begun := by
  by_cases hlive : t.link.state = .terminated
  · rwa [release_of_past hlive]
  · intro held
    rw [holds_release hlive] at held
    cases held

/-- A link that leaves has no channel, and its flag is nobody's concern. -/
theorem Flagged.leave (h : t.Flagged begun) (exit : Exit) (cue : Cue) :
    (t.leave exit cue).1.Flagged begun := h.release

/-- The flag is right after the deadline has been looked at. -/
theorem Flagged.endTick (h : t.Flagged true) (now : Nat) (cue : Cue) :
    (t.endTick now cue).1.Flagged true := by
  have hcount : (t.count fun s =>
      { s with parseErrors := t.link.decoder.stats.parseErrors }).Flagged
        true := h
  have hcheck := hcount.checkDeadline now
  unfold Turn.endTick
  dsimp only
  split
  · next t₁ exit _ heq =>
      rw [heq] at hcheck
      exact hcheck
  · next t₁ exit heq _ =>
      rw [heq] at hcheck
      exact hcheck.leave exit cue
  · next t₁ heq _ =>
      rw [heq] at hcheck
      exact hcheck

/-- Decoding a byte sets no flag, and at the end of the bytes the tick ends. -/
theorem Flagged.takeIn (h : t.Flagged true) (now : Nat) (cue : Cue)
    (bytes : Bytes) :
    (t.takeIn now cue bytes).1.Flagged true := by
  induction bytes generalizing t with
  | nil => exact h.endTick now cue
  | cons b rest ih =>
      have hdecode : (t.decode b).1.Flagged true := h
      unfold Turn.takeIn
      split
      · next t₁ heq =>
          rw [heq] at hdecode
          exact ih hdecode
      · next t₁ f heq =>
          rw [heq] at hdecode
          exact hdecode

/-- The flag is right after a frame, with a heartbeat in it or not. -/
theorem Flagged.weigh (h : t.Flagged true) (now : Nat) (f : Frame)
    (rest : Bytes) (cue : Cue) :
    (t.weigh now f rest cue).1.Flagged true := by
  have hjudge : (t.judge f cue.verdict).Flagged true := by
    unfold judge
    cases cue.verdict <;> exact h
  unfold Turn.weigh
  dsimp only
  split
  · split
    · exact (hjudge.beat now).takeIn now cue rest
    · exact hjudge.beat now
  · exact hjudge.takeIn now cue rest

variable [Endpoint ε]

/-- Draining and reading set no flag; then the bytes are taken in. -/
theorem Flagged.startTick (h : t.Flagged true) (config : LinkConfig)
    (cue : Cue) : (t.startTick config cue).1.Flagged true := by
  obtain ⟨t', hsame, ⟨_, exit, heq⟩ | heq⟩ := t.startTick_cases config cue
  · rw [heq]
    exact (h.sameSide hsame).leave exit cue
  · rw [heq]
    exact (h.sameSide hsame).takeIn cue.now cue (t.intake config)

/-- **A stretch of work** leaves the flag as the policy has it. -/
theorem Flagged.resume {stand : Stand} (h : t.Flagged (stand != .connected))
    (config : LinkConfig) (cue : Cue) :
    (t.resume config cue stand).1.Flagged true := by
  cases stand with
  | connected => exact Flagged.begin h
  | waiting => exact Flagged.startTick h config cue
  | judging now f rest => exact Flagged.weigh h now f rest cue
  | greeting now rest => exact Flagged.takeIn h now cue rest
  | parting exit =>
      cases exit with
      | none => exact h
      | some exit => exact Flagged.leave h exit cue
  | _ => exact h

end Turn

namespace Traffic

variable {ε : Type} [Endpoint ε] {w : Traffic ε} {k : Nat} {c : Course ε}

/-- The link's own work leaves the flag as the policy has it. -/
theorem Counted.flagged_work (h : w.Counted) (hk : w.courses[k]? = some c)
    (hflag : (c.turn w.board).Flagged (c.stand != .connected)) {a : Act ε}
    {t : Turn ε} {stand : Stand} (hwork : Work k c w.board a t stand) :
    t.Flagged (stand != .connected) := by
  cases hwork with
  | resume cue =>
      have hbegun :=
        Turn.resume_ne_connected c.config cue c.stand (c.turn w.board)
      rw [bne_iff_ne.mpr hbegun]
      exact hflag.resume c.config cue
  | drop =>
      by_cases hlive : c.link.state = .terminated
      · -- a link that has ended is not one that has not begun
        have hpast := (h.orderly c (List.mem_of_getElem? hk)).past.mpr hlive
        have hbegun : (c.stand != .connected) = true := by
          apply bne_iff_ne.mpr
          intro hconnected
          rw [hconnected] at hpast
          cases hpast
        rw [hbegun] at hflag
        exact hflag.release
      · intro held
        have hgiven := Turn.holds_release (t := c.turn w.board) hlive
        rw [held] at hgiven
        cases hgiven
  | far f => exact hflag

/-- **One act** leaves the flag of link `k` as the policy has it, as long as
nobody else sets it. -/
theorem Sound.flagged_act (h : w.Sound) (hcounted : w.Counted)
    (hk : w.courses[k]? = some c)
    (hflag : (c.turn w.board).Flagged (c.stand != .connected)) {a : Act ε}
    (hset : ∀ active, a ≠ .ask (.setActive c.link.channel active))
    (hclaim : ∀ active, a ≠ .ask (.setClaimActive c.link.claim active)) :
    ∃ c', (w.act a).courses[k]? = some c' ∧ c.Becomes c' ∧
      (c'.turn (w.act a).board).Flagged (c'.stand != .connected) := by
  obtain ⟨c', hk', hbecomes⟩ := becomes_act hk a
  refine ⟨c', hk', hbecomes, ?_⟩
  have hbefore := h.held_before hk (a := a)
  rcases h.holder_cases hk a with
      ⟨t, stand, hwork, heq⟩ | ⟨_, hsame, hchannel⟩ | ⟨op, rfl, heq⟩
  · rw [heq, courses_commit hk, if_pos rfl] at hk'
    obtain rfl := Option.some.inj hk'
    rw [heq]
    exact hcounted.flagged_work hk hflag hwork
  · obtain rfl := Option.some.inj (hsame.symm.trans hk')
    intro held
    have hheld := hbefore held
    exact (hchannel hheld).isActive.trans (hflag hheld)
  · rw [heq] at hk' hbefore ⊢
    obtain rfl := Option.some.inj (hk.symm.trans hk')
    intro held
    have hheld := hbefore held
    have hset' : ∀ active, op ≠ .setActive c.link.claim.index active :=
      fun active hop => hset active (congrArg Act.ask hop)
    have hclaim' : ∀ active, op ≠ .setClaimActive c.link.claim active :=
      fun active hop => hclaim active (congrArg Act.ask hop)
    exact (Downlink.isActive_perform h.pool hset' hclaim' hheld held).trans
      (hflag hheld)

/-- **Any acts in any order** do, as long as nobody else sets the flag. -/
theorem Sound.flagged_run (h : w.Sound) (hcounted : w.Counted)
    (hk : w.courses[k]? = some c)
    (hflag : (c.turn w.board).Flagged (c.stand != .connected))
    {acts : List (Act ε)}
    (hset : ∀ active, .ask (.setActive c.link.channel active) ∉ acts)
    (hclaim : ∀ active, .ask (.setClaimActive c.link.claim active) ∉ acts) :
    ∃ c', (w.run acts).courses[k]? = some c' ∧ c.Becomes c' ∧
      (c'.turn (w.run acts).board).Flagged (c'.stand != .connected) := by
  induction acts generalizing w c with
  | nil => exact ⟨c, hk, .refl c, hflag⟩
  | cons a acts ih =>
      simp only [List.mem_cons, not_or, forall_and] at hset hclaim
      obtain ⟨c₁, hk₁, hbecomes, hflag₁⟩ :=
        h.flagged_act hcounted hk hflag
          (fun active heq => hset.1 active heq.symm)
          fun active heq => hclaim.1 active heq.symm
      have hchannel : c₁.link.channel = c.link.channel :=
        congrArg Claim.index hbecomes.claim
      obtain ⟨c', hk', hbecomes', hflag'⟩ :=
        ih (h.act a) (hcounted.act a) hk₁ hflag₁
        (by rw [hchannel]; exact hset.2)
          (by rw [hbecomes.claim]; exact hclaim.2)
      exact ⟨c', hk', hbecomes.trans hbecomes', hflag'⟩

/-- A link that has been connected a moment ago has an empty diary, and its
channel is inactive. -/
theorem Sound.keeping_connect (h : w.Sound) {name : String} {policy : Policy}
    {config : LinkConfig} {now : Nat} {endpoint : ε}
    (hc :
      (w.act
        (.connect name policy config now endpoint)).courses[w.courses.length]? =
          some c) :
    c.link.policy = policy ∧ Keeping config.heartbeatTimeout [] c.link c.stand ∧
      (c.turn (w.act (.connect name policy config now endpoint)).board).Flagged
        (c.stand != .connected) := by
  obtain ⟨pool, claim, hclaim, rfl, hboard⟩ := act_connect hc
  have hinactive := h.pool.not_isActive_claim (congrArg Prod.snd hclaim)
  rw [hclaim] at hinactive
  refine ⟨rfl, ⟨rfl, rfl, rfl, ?_, ?_⟩, ?_⟩
  · simp [Link.connect, Tracker.begin]
  · exact fun beat hlast => by cases hlast
  · intro _
    have hneither :
        (if policy.waitForHeartbeat then LinkState.starting == .active
        else Stand.connected != .connected) = false := by
      cases policy.waitForHeartbeat <;> rfl
    rw [hboard]
    exact hinactive.trans hneither.symm

end Traffic

/-- **Heartbeats decide.**  Take a link that is connected at some time, and let
anything happen then in any order, with any bytes coming in, as long as its
polls are not earlier one after the other.  Unless it has ended, and once all
that the latest poll has read is decoded, its state is what its diary says:
starting if no poll brought a heartbeat, else active or idle by the time between
the latest that did and the latest of all.  In every poll the handler was told
what it should be, so that a heartbeat which comes past the deadline keeps an
active link active, and the handler is told nothing.  And while the link holds
its channel and nobody else sets the flag, the channel is active as long as the
link is, or from its beginning on if it does not wait for heartbeats. -/
theorem state_follows_heartbeats {ε : Type} [Endpoint ε]
    {channels queueCapacity : Nat} {d : Downlink}
    (hcreate : Pool.create? channels queueCapacity = some d.pool)
    (before after : List (Act ε)) (name : String) (policy : Policy)
    (config : LinkConfig) (now : Nat) (endpoint : ε) {c₀ : Course ε}
    (hc₀ :
      (((Traffic.start d).run before).act
        (.connect name policy config now endpoint)).courses[
          ((Traffic.start (ε := ε) d).run before).courses.length]? = some c₀) :
    let k := ((Traffic.start (ε := ε) d).run before).courses.length
    let w₀ :=
      ((Traffic.start d).run before).act
        (.connect name policy config now endpoint)
    let w := w₀.run after
    let polls := w₀.pollsOver k [] after
    let timeout := config.heartbeatTimeout
    ∃ c, w.courses[k]? = some c ∧ c.link.claim = c₀.link.claim ∧
      (InOrder polls → c.link.state ≠ .terminated → c.stand.isDecoding = false →
        c.link.state = presence timeout polls ∧
          ∀ later p past, polls = later ++ p :: past →
            p.Lawful timeout past ∧
              (presence timeout past = .active → p.beats = true →
                presence timeout (p :: past) = .active ∧
                  p.told.countP Event.isActivated = 0 ∧
                  p.told.countP Event.isIdled = 0)) ∧
      ((∀ active, .ask (.setActive c₀.link.channel active) ∉ after) →
        (∀ active, .ask (.setClaimActive c₀.link.claim active) ∉ after) →
        w.downlink.pool.holds c.link.claim = true →
          w.downlink.pool.isActive c.link.channel =
            if policy.waitForHeartbeat then c.link.state == .active
            else c.stand != .connected) := by
  intro k w₀ w polls timeout
  have hbefore : ((Traffic.start (ε := ε) d).run before).Sound :=
    (Traffic.sound_start hcreate).run _
  have hsound : w₀.Sound := hbefore.act _
  have hcounted : w₀.Counted := ((Traffic.counted_start d).run _).act _
  have hc : w₀.courses[k]? = some c₀ := hc₀
  obtain ⟨hpolicy, hkeeping, hflag⟩ := hbefore.keeping_connect hc
  obtain ⟨c, hk, hbecomes⟩ := Traffic.becomes_run hc after
  refine ⟨c, hk, hbecomes.claim, ?_, ?_⟩
  · intro horder hlive hdecoded
    obtain ⟨c', hk', hkeeping'⟩ := Traffic.keeping_run hc hkeeping after horder
    obtain rfl := Option.some.inj (hk.symm.trans hk')
    have hpast :=
      ((hcounted.run after).orderly c (List.mem_of_getElem? hk)).past
    obtain ⟨hsettled, hlaw⟩ := hkeeping'.settled hdecoded (mt hpast.mp hlive)
    refine ⟨hsettled.state, ?_⟩
    intro later p past hsplit
    have hlawful := hlaw.lawful hsplit
    refine ⟨hlawful, ?_⟩
    intro hactive hbeats
    refine ⟨presence_of_beats hbeats timeout past, ?_, ?_⟩
    · rw [hlawful.activated, if_neg fun hnew => hnew.2 hactive]
    · rw [hlawful.idled, if_neg fun hgone => by simp [hbeats] at hgone]
  · intro hset hclaim held
    obtain ⟨c', hk', _, hflag'⟩ :=
      hsound.flagged_run hcounted hc hflag hset hclaim
    obtain rfl := Option.some.inj (hk.symm.trans hk')
    have hflagged := hflag' held
    rw [show (c.turn (w₀.run after).board).link.policy = policy from
      hbecomes.policy.trans hpolicy] at hflagged
    exact hflagged

/-- A link that has been connected at 0 and waits ten units of time for a
heartbeat. -/
def awaiting : Traffic Pipe :=
  (Traffic.start (.single 4)).act
    (.connect "gcs" {} { heartbeatTimeout := 10 } 0 {})

/-- The far end sends a heartbeat. -/
def beating : Act Pipe :=
  .far 0 fun p =>
    (p.send
      (Frame.encode ⟨.v2, ⟨1, 1, 0⟩, (Heartbeat.ofAutopilot 0).toMessage⟩)).1

/-- The link goes on. -/
def going (now : Nat) : Act Pipe := .resume 0 ⟨now, .ok (), none⟩

/-- A heartbeat comes in at 5, the deadline is seen at 15 and missed at 16, and
heartbeats come in at 20 and, past the deadline, at 40. -/
def beatingActs : List (Act Pipe) :=
  [going 0, going 0, beating, going 5, going 5, going 5, going 15, going 16,
    going 16, beating, going 20, going 20, going 20, beating, going 40,
    going 40]

/-- The link is active in the end, and so is its channel.  The handler was told
so twice, and once that it was idle. -/
theorem beating_active :
    ∃ c, (awaiting.run beatingActs).courses[0]? = some c ∧
      c.link.state = .active ∧
      (awaiting.pollsOver 0 [] beatingActs).map (fun p => (p.time, p.beats)) =
        [(40, true), (20, true), (16, false), (15, false), (5, true)] ∧
      (awaiting.pollsOver 0 [] beatingActs).map (fun p =>
        (p.told.countP Event.isActivated, p.told.countP Event.isIdled)) =
        [(0, 0), (1, 0), (0, 1), (0, 0), (1, 0)] ∧
      (awaiting.run beatingActs).downlink.pool.isActive 0 = true := by
  have hcreate : Pool.create? 1 4 = some (Downlink.single 4).pool := rfl
  have hbeats :
      (awaiting.pollsOver 0 [] beatingActs).map (fun p => (p.time, p.beats)) =
      [(40, true), (20, true), (16, false), (15, false), (5, true)] := by
    decide +kernel
  have htold : (awaiting.pollsOver 0 [] beatingActs).map (fun p =>
      (p.told.countP Event.isActivated, p.told.countP Event.isIdled)) =
        [(0, 0), (1, 0), (0, 1), (0, 0), (1, 0)] := by decide +kernel
  have htimes : (awaiting.pollsOver 0 [] beatingActs).map Poll.time =
      [40, 20, 16, 15, 5] := by
    decide +kernel
  have horder : InOrder (awaiting.pollsOver 0 [] beatingActs) := by
    have hsorted :
        ((awaiting.pollsOver 0 [] beatingActs).map Poll.time).Pairwise
        fun a b => b ≤ a := by
      rw [htimes]
      decide
    exact List.pairwise_map.mp hsorted
  have hset : ∀ active, Act.ask (.setActive 0 active) ∉ beatingActs := by
    intro active
    simp [beatingActs, going, beating]
  have hclaim : ∀ active, Act.ask (.setClaimActive ⟨0, 1⟩ active) ∉
      beatingActs := by
    intro active
    simp [beatingActs, going, beating]
  have hpresence : presence 10 (awaiting.pollsOver 0 [] beatingActs) =
      .active := by
    decide +kernel
  have hvalues : (awaiting.run beatingActs).courses[0]?.map
      (fun c => (c.stand, c.link.state == .terminated)) =
        some (.waiting, false) := by
    decide +kernel
  have hheld : (awaiting.run beatingActs).downlink.pool.holds ⟨0, 1⟩ =
      true := by
    decide +kernel
  have hconnected : awaiting.courses[0]? = some _ := rfl
  obtain ⟨c, hc, hsame, hfollows, hflag⟩ :=
    state_follows_heartbeats hcreate [] beatingActs "gcs"
    {} { heartbeatTimeout := 10 } 0 ({} : Pipe) hconnected
  have hcourse : (awaiting.run beatingActs).courses[0]? = some c := hc
  rw [hcourse] at hvalues
  simp only [Option.map_some, Option.some.injEq, Prod.mk.injEq,
    beq_eq_false_iff_ne] at hvalues
  obtain ⟨hstand, hlive⟩ := hvalues
  obtain ⟨hstate, _⟩ := hfollows horder hlive (by rw [hstand]; rfl)
  have hactive : c.link.state = .active := hstate.trans hpresence
  have hclaimed : c.link.claim = ⟨0, 1⟩ := hsame
  have hchannel : c.link.channel = 0 := congrArg Claim.index hclaimed
  rw [← hclaimed] at hheld
  rw [Traffic.run_nil, ← awaiting] at hflag
  have hflagged := hflag hset hclaim hheld
  rw [hchannel, hactive] at hflagged
  exact ⟨c, hcourse, hactive, hbeats, htold, hflagged⟩

end GroundLink
