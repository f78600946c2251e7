import GroundLink.Link.Diary
import GroundLink.Proofs.Channel.Flag
import GroundLink.Proofs.Link.ActiveCount
import GroundLink.Proofs.Link.Possession

/-!
# What a link knows of the other side

Tracker, state and handler of a link say where the other side is.  All three
follow from the link's diary (`presence`): what matters is when the latest
heartbeat came in and when the latest poll was.

In the middle of a poll a link is `Midway`: the frames that have been decided on
count, the deadline has not been looked at.  After the poll it is `Settled`.
The frames that are still to come are what the decoder makes of the bytes that
the link keeps where it waits (`Keeping`).  One lemma for each part of a tick
leads from one to the other, and `Keeping.resume` puts them together for a
stretch of work.
-/

namespace GroundLink

/-! ## Diaries -/

section

variable {timeout : Nat} {p : Poll} {past : List Poll}

/-- The latest poll may be the one with the latest heartbeat. -/
theorem lastBeat_of_beats (h : p.beats = true) (past : List Poll) :
    lastBeat (p :: past) = some p.time := by
  simp [lastBeat, h]

/-- A poll without a heartbeat makes none the latest. -/
theorem lastBeat_of_not_beats (h : p.beats = false) (past : List Poll) :
    lastBeat (p :: past) = lastBeat past := by
  simp [lastBeat, h]

/-- Of the latest poll, its time counts and whether a heartbeat came in. -/
theorem lastBeat_congr {p' : Poll} (hbeats : p'.beats = p.beats)
    (htime : p'.time = p.time) (past : List Poll) :
    lastBeat (p' :: past) = lastBeat (p :: past) := by
  unfold lastBeat
  rw [List.find?_cons, List.find?_cons, hbeats]
  cases p.beats <;> simp [htime]

/-- What the handler is told later brings no heartbeat. -/
theorem lastBeat_tell (news : List Event) (polls : List Poll) :
    lastBeat (tell news polls) = lastBeat polls := by
  cases polls with
  | nil => rfl
  | cons p past =>
      have hbeats : ({ p with told := p.told ++ news } : Poll).beats =
          p.beats := rfl
      exact lastBeat_congr hbeats rfl past

/-- Nor does it make a difference to whether the other side is there. -/
theorem presence_tell (timeout : Nat) (news : List Event) (polls : List Poll) :
    presence timeout (tell news polls) = presence timeout polls := by
  cases polls with
  | nil => rfl
  | cons p past =>
      exact congrArg (presenceAt timeout p.time)
        (lastBeat_tell news (p :: past))

theorem tell_nil (polls : List Poll) : tell [] polls = polls := by
  cases polls <;> simp [tell]

/-- What is told in two parts is told in their order. -/
theorem tell_append (news more : List Event) (polls : List Poll) :
    tell (news ++ more) polls = tell more (tell news polls) := by
  cases polls <;> simp [tell]

/-- Polls in the order of their times, the latest first. -/
def InOrder (polls : List Poll) : Prop :=
  polls.Pairwise fun p q => q.time ≤ p.time

/-- What is told later changes no time. -/
theorem inOrder_tell (news : List Event) (polls : List Poll) :
    InOrder (tell news polls) ↔ InOrder polls := by
  cases polls <;> simp [InOrder, tell]

/-- A heartbeat in the latest poll is in time. -/
theorem presence_of_beats (h : p.beats = true) (timeout : Nat)
    (past : List Poll) :
    presence timeout (p :: past) = .active := by
  rw [presence, lastBeat_of_beats h]
  simp [presenceAt]

/-- The other side was there, and no heartbeat has come in since: now it depends
on the time. -/
theorem presence_of_active (h : p.beats = false)
    (hpast : presence timeout past = .active) :
    ∃ beat, lastBeat past = some beat ∧
      presence timeout (p :: past) =
        if p.time ≤ beat + timeout then .active else .idle := by
  cases past with
  | nil => cases hpast
  | cons q past =>
      rw [presence] at hpast
      cases hlast : lastBeat (q :: past) with
      | none =>
          rw [hlast] at hpast
          cases hpast
      | some beat =>
          refine ⟨beat, rfl, ?_⟩
          rw [presence, lastBeat_of_not_beats h, hlast]
          rfl

/-- The other side was not there, and no heartbeat has come in since: then it is
not there now, since time does not run backwards. -/
theorem presence_of_not_active (h : p.beats = false)
    (hpast : presence timeout past ≠ .active)
    (horder : ∀ q ∈ past.head?, q.time ≤ p.time) :
    presence timeout (p :: past) = presence timeout past := by
  rw [presence, lastBeat_of_not_beats h]
  cases past with
  | nil => rfl
  | cons q past =>
      have hle : q.time ≤ p.time := horder q rfl
      rw [presence] at hpast ⊢
      cases hlast : lastBeat (q :: past) with
      | none => rfl
      | some beat =>
          rw [hlast] at hpast
          simp only [presenceAt] at hpast ⊢
          have hlate : ¬q.time ≤ beat + timeout := by
            intro hin
            exact hpast (if_pos hin)
          have hlater : ¬p.time ≤ beat + timeout := by omega
          rw [if_neg hlate, if_neg hlater]

/-- Every poll told the handler what it should have. -/
def AllLawful (timeout : Nat) : List Poll → Prop
  | [] => True
  | p :: past => p.Lawful timeout past ∧ AllLawful timeout past

/-- Of a diary that is lawful throughout, each poll is lawful after those
before it. -/
theorem AllLawful.lawful {polls later : List Poll} (h : AllLawful timeout polls)
    (hsplit : polls = later ++ p :: past) : p.Lawful timeout past := by
  induction later generalizing polls with
  | nil =>
      subst hsplit
      exact h.1
  | cons q later ih =>
      subst hsplit
      exact ih h.2 rfl

end

/-! ## Links -/

/-- Tracker and state after a poll. -/
structure Settled (timeout : Nat) (polls : List Poll) (l : Link) : Prop where
  span : l.tracker.timeout = timeout
  state : l.state = presence timeout polls
  present : l.tracker.active = true ↔ l.state = .active
  deadline : ∀ beat, lastBeat polls = some beat →
    l.tracker.deadline = beat + timeout

/-- Tracker and state in the middle of a poll, of which `q` is what has been
decided on: a heartbeat counts at once, and the deadline will be looked at in
the end. -/
structure Midway (timeout : Nat) (past : List Poll) (q : Poll) (l : Link) :
    Prop where
  span : l.tracker.timeout = timeout
  state : l.state = if q.beats then .active else presence timeout past
  present : l.tracker.active = true ↔ l.state = .active
  deadline : ∀ beat, lastBeat (q :: past) = some beat →
    l.tracker.deadline = beat + timeout
  frames : q.told.filterMap Event.frame? = q.frames
  activated : q.told.countP Event.isActivated =
    if q.beats = true ∧ presence timeout past ≠ .active then 1 else 0
  idled : q.told.countP Event.isIdled = 0

variable {ε : Type} {timeout : Nat} {past : List Poll} {q : Poll} {l l' : Link}

/-- Only tracker and state matter between the polls. -/
theorem Settled.of_same {polls : List Poll} (h : Settled timeout polls l)
    (htracker : l'.tracker = l.tracker) (hstate : l'.state = l.state) :
    Settled timeout polls l' := by
  obtain ⟨h₁, h₂, h₃, h₄⟩ := h
  rw [← htracker] at h₁ h₃ h₄
  rw [← hstate] at h₂ h₃
  exact ⟨h₁, h₂, h₃, h₄⟩

/-- Only tracker and state matter in the middle of a poll, beside the diary. -/
theorem Midway.of_same (h : Midway timeout past q l)
    (htracker : l'.tracker = l.tracker) (hstate : l'.state = l.state) :
    Midway timeout past q l' := by
  obtain ⟨h₁, h₂, h₃, h₄, hframes, hactivated, hidled⟩ := h
  rw [← htracker] at h₁ h₃ h₄
  rw [← hstate] at h₂ h₃
  exact ⟨h₁, h₂, h₃, h₄, hframes, hactivated, hidled⟩

/-- A poll begins. -/
theorem Settled.midway (h : Settled timeout past l) (now : Nat) :
    Midway timeout past ⟨now, [], []⟩ l := by
  have hnone : (⟨now, [], []⟩ : Poll).beats = false := rfl
  refine ⟨h.span, ?_, h.present, ?_, rfl, ?_, rfl⟩
  · rw [hnone]
    exact h.state
  · rw [lastBeat_of_not_beats hnone]
    exact h.deadline
  · rw [hnone]
    rfl

/-- The other side is not there while no heartbeat has been decided on. -/
theorem Midway.absent (h : Midway timeout past q l)
    (habsent : l.tracker.active = false) :
    q.beats = false ∧ presence timeout past ≠ .active := by
  have hnot : l.state ≠ .active := by
    intro hactive
    rw [h.present.mpr hactive] at habsent
    cases habsent
  have hstate := h.state
  cases hbeats : q.beats with
  | true =>
      rw [hbeats] at hstate
      exact absurd hstate hnot
  | false =>
      rw [hbeats] at hstate
      refine ⟨rfl, ?_⟩
      intro hactive
      exact hnot (hstate.trans hactive)

namespace Turn

/-! ## What does not concern the other side -/

/-- Nothing that concerns the other side is different, nor who holds which
channel and which of them are active. -/
structure SameSide (t t' : Turn ε) : Prop where
  tracker : t'.link.tracker = t.link.tracker
  state : t'.link.state = t.link.state
  decoder : t'.link.decoder = t.link.decoder
  events : t'.events = t.events
  claim : t'.link.claim = t.link.claim
  policy : t'.link.policy = t.link.policy
  holds : ∀ c, t'.board.pool.holds c = t.board.pool.holds c
  isActive : ∀ i, t'.board.pool.isActive i = t.board.pool.isActive i

theorem SameSide.refl (t : Turn ε) : SameSide t t :=
  ⟨rfl, rfl, rfl, rfl, rfl, rfl, fun _ => rfl, fun _ => rfl⟩

/-- What concerns the other side is left alone by one step and by the next. -/
theorem SameSide.trans {t₁ t₂ t₃ : Turn ε} (h₁₂ : SameSide t₁ t₂)
    (h₂₃ : SameSide t₂ t₃) :
    SameSide t₁ t₃ where
  tracker := h₂₃.tracker.trans h₁₂.tracker
  state := h₂₃.state.trans h₁₂.state
  decoder := h₂₃.decoder.trans h₁₂.decoder
  events := h₂₃.events.trans h₁₂.events
  claim := h₂₃.claim.trans h₁₂.claim
  policy := h₂₃.policy.trans h₁₂.policy
  holds := fun c => (h₂₃.holds c).trans (h₁₂.holds c)
  isActive := fun i => (h₂₃.isActive i).trans (h₁₂.isActive i)

/-- Counters, the chunk at hand and the endpoint have nothing to do with it. -/
theorem sameSide_of_board {t t' : Turn ε} (hboard : t'.board = t.board)
    (htracker : t'.link.tracker = t.link.tracker)
    (hstate : t'.link.state = t.link.state)
    (hdecoder : t'.link.decoder = t.link.decoder)
    (hevents : t'.events = t.events) (hclaim : t'.link.claim = t.link.claim)
    (hpolicy : t'.link.policy = t.link.policy) :
    SameSide t t' :=
  ⟨htracker, hstate, hdecoder, hevents, hclaim, hpolicy, fun _ => by
      rw [hboard],
    fun _ => by rw [hboard]⟩

/-- The next chunk comes off the link's channel, whose flag and holder stay as
they are. -/
theorem sameSide_refill (chunk : Nat) (t : Turn ε) :
    SameSide t (t.refill chunk) := by
  unfold refill
  split
  · exact ⟨rfl, rfl, rfl, rfl, rfl, rfl, fun c => holds_drain _ _ _ _,
      fun i => t.board.pool.isActive_drain _ _ i⟩
  · exact .refl t

/-- A chunk that is given up was for the other side, but says nothing of it. -/
theorem sameSide_writeFailed (t : Turn ε) : SameSide t t.writeFailed.1 := by
  unfold writeFailed
  dsimp only
  split
  · exact sameSide_of_board rfl rfl rfl rfl rfl rfl rfl
  · exact sameSide_of_board rfl rfl rfl rfl rfl rfl rfl

/-- However often a link writes, it learns nothing of the other side. -/
theorem sameSide_drainWithin [Endpoint ε] (chunk attempts : Nat) (t : Turn ε) :
    SameSide t (drainWithin chunk attempts t).1 := by
  induction attempts generalizing t with
  | zero => exact .refl t
  | succ attempts ih =>
      have hrefill := sameSide_refill chunk t
      have hport (endpoint : ε) : SameSide t { t.refill chunk with endpoint } :=
        hrefill.trans (sameSide_of_board rfl rfl rfl rfl rfl rfl rfl)
      unfold drainWithin
      dsimp only
      split
      · exact hrefill
      · split
        · next endpoint _ => exact hport endpoint
        · next endpoint n _ _ =>
            have hwrote :
                SameSide t (wrote n { t.refill chunk with endpoint }) :=
              hrefill.trans (sameSide_of_board rfl rfl rfl rfl rfl rfl rfl)
            exact hwrote.trans (ih _)
        · next endpoint _ _ =>
            exact (hport endpoint).trans (sameSide_writeFailed _)

/-- The bytes of a read are no news until they are decoded. -/
theorem sameSide_read [Endpoint ε] (size : Nat) (t : Turn ε) :
    SameSide t (t.read size).1 := by
  unfold Turn.read
  split
  · exact sameSide_of_board rfl rfl rfl rfl rfl rfl rfl
  · dsimp only
    split
    · exact sameSide_of_board rfl rfl rfl rfl rfl rfl rfl
    · exact sameSide_of_board rfl rfl rfl rfl rfl rfl rfl

/-- **A tick begins** in one of two ways.  It ends the link and reads nothing
that is decoded; or it goes on to decode what it has read.  The other side is
not concerned before that. -/
theorem startTick_cases [Endpoint ε] (config : LinkConfig) (cue : Cue)
    (t : Turn ε) :
    ∃ t', SameSide t t' ∧
      ((t.intake config = [] ∧
          ∃ exit, t.startTick config cue = t'.leave exit cue) ∨
        t.startTick config cue =
          t'.takeIn cue.now cue (t.intake config)) := by
  unfold startTick intake
  by_cases hheld : t.board.pool.holds t.link.claim = true
  · have hdrain : SameSide t (t.drain config.writeChunk).1 :=
      sameSide_drainWithin _ _ t
    rw [hheld]
    simp only [if_true, Bool.not_true, Bool.false_eq_true, if_false]
    rcases hdrained : t.drain config.writeChunk with ⟨t₁, _ | exit⟩
    · rw [hdrained] at hdrain
      have hread := hdrain.trans (sameSide_read config.readBuffer t₁)
      dsimp only
      rcases hreads : t₁.read config.readBuffer with ⟨t₂, exit | bytes⟩
      · rw [hreads] at hread
        exact ⟨t₂, hread, Or.inl ⟨rfl, exit, rfl⟩⟩
      · rw [hreads] at hread
        exact ⟨t₂, hread, Or.inr rfl⟩
    · rw [hdrained] at hdrain
      exact ⟨t₁, hdrain, Or.inl ⟨rfl, exit, rfl⟩⟩
  · rw [Bool.not_eq_true] at hheld
    rw [hheld]
    exact ⟨t, .refl t, Or.inl ⟨rfl, .evicted, rfl⟩⟩

/-! ## Heartbeats -/

/-- A heartbeat while the other side is there moves the deadline and does
nothing else. -/
theorem beat_of_present {t : Turn ε} (h : t.link.tracker.active = true)
    (now : Nat) :
    (t.beat now).link.tracker = (t.link.tracker.heartbeat now).1 ∧
      (t.beat now).link.state = t.link.state ∧ (t.beat now).events = t.events ∧
      (t.beat now).link.decoder = t.link.decoder := by
  simp [beat, Tracker.heartbeat, count, h]

/-- A heartbeat while the other side is not there makes the link active, and the
handler is told so. -/
theorem beat_of_absent {t : Turn ε} (h : t.link.tracker.active = false)
    (now : Nat) :
    (t.beat now).link.tracker = (t.link.tracker.heartbeat now).1 ∧
      (t.beat now).link.state = .active ∧
      (t.beat now).events = t.events ++ [.raised, .activated] ∧
      (t.beat now).link.decoder = t.link.decoder := by
  cases hwait : t.link.policy.waitForHeartbeat <;>
    simp [beat, Tracker.heartbeat, count, activate, note, setChannelActive,
      h, hwait]

/-- What is put on record of a frame. -/
theorem judge_same (f : Frame) (verdict : Except Refusal Unit) (t : Turn ε) :
    (t.judge f verdict).link.tracker = t.link.tracker ∧
      (t.judge f verdict).link.state = t.link.state ∧
      (t.judge f verdict).events = t.events ++ [.frame f verdict] ∧
      (t.judge f verdict).link.decoder = t.link.decoder := by
  cases verdict <;> exact ⟨rfl, rfl, rfl, rfl⟩

/-- A link after the handler has decided on a frame. -/
def weighed (now : Nat) (f : Frame) (verdict : Except Refusal Unit)
    (t : Turn ε) :
    Turn ε :=
  if f.isHeartbeat then (t.judge f verdict).beat now else t.judge f verdict

/-- The handler has decided on a frame: decoding goes on, or the link says first
that it is active. -/
theorem weigh_cases (now : Nat) (f : Frame) (rest : Bytes) (cue : Cue)
    (t : Turn ε) :
    t.weigh now f rest cue = (t.weighed now f cue.verdict).takeIn now cue rest ∨
      t.weigh now f rest cue =
        (t.weighed now f cue.verdict, .greeting now rest) := by
  unfold weigh weighed
  cases f.isHeartbeat with
  | false => exact Or.inl rfl
  | true =>
      simp only [if_true]
      split
      · exact Or.inl rfl
      · exact Or.inr rfl

end Turn

open Turn

/-- A frame that is not a heartbeat is put on record. -/
theorem Midway.heard (h : Midway timeout past q l) {f : Frame}
    (hbeat : f.isHeartbeat = false) (verdict : Except Refusal Unit) :
    Midway timeout past
      ⟨q.time, q.frames ++ [f], q.told ++ [.frame f verdict]⟩ l := by
  have hsame :
      (⟨q.time, q.frames ++ [f], q.told ++ [.frame f verdict]⟩ : Poll).beats =
      q.beats := by simp [Poll.beats, hbeat]
  refine ⟨h.span, ?_, h.present, ?_, ?_, ?_, ?_⟩
  · rw [hsame]
    exact h.state
  · intro beat hlast
    rw [lastBeat_congr (p := q) hsame rfl] at hlast
    exact h.deadline beat hlast
  · simp [h.frames, Event.frame?]
  · rw [hsame, List.countP_append, h.activated]
    rfl
  · rw [List.countP_append, h.idled]
    rfl

/-- A heartbeat is put on record and counts.  The handler is told that the link
is active, unless it was. -/
theorem Midway.beaten (h : Midway timeout past q l) {f : Frame}
    (hbeat : f.isHeartbeat = true)
    (htracker : l'.tracker = (l.tracker.heartbeat q.time).1)
    (hstate : l'.state = .active) {told : List Event}
    (hframes : told.filterMap Event.frame? = [f])
    (hactivated : told.countP Event.isActivated =
      if q.beats = true ∨ presence timeout past = .active then 0 else 1)
    (hidled : told.countP Event.isIdled = 0) :
    Midway timeout past ⟨q.time, q.frames ++ [f], q.told ++ told⟩ l' := by
  have hnow : (⟨q.time, q.frames ++ [f], q.told ++ told⟩ : Poll).beats =
      true := by
    simp [Poll.beats, hbeat]
  refine ⟨?_, ?_, ?_, ?_, ?_, ?_, ?_⟩
  · rw [htracker, Tracker.timeout_heartbeat, h.span]
  · rw [hnow, hstate, if_pos rfl]
  · rw [htracker, hstate]
    simp [Tracker.heartbeat]
  · intro beat hlast
    rw [lastBeat_of_beats hnow] at hlast
    obtain rfl := Option.some.inj hlast
    rw [htracker, Tracker.deadline_heartbeat, h.span]
  · rw [List.filterMap_append, h.frames, hframes]
  · rw [hnow, List.countP_append, h.activated, hactivated]
    by_cases hbeats : q.beats = true
    · simp [hbeats]
    · by_cases hpast : presence timeout past = .active <;> simp [hbeats, hpast]
  · rw [List.countP_append, h.idled, hidled]

/-- **One frame** is decided on: it is on record, and if it is a heartbeat, it
counts. -/
theorem Midway.weighed {t : Turn ε} (h : Midway timeout past q t.link)
    (f : Frame) (verdict : Except Refusal Unit) :
    ∃ told, (t.weighed q.time f verdict).events = t.events ++ told ∧
      (t.weighed q.time f verdict).link.decoder = t.link.decoder ∧
      Midway timeout past ⟨q.time, q.frames ++ [f], q.told ++ told⟩
        (t.weighed q.time f verdict).link := by
  obtain ⟨htracker, hstate, hevents, hdecoder⟩ := judge_same f verdict t
  have hjudged := h.of_same htracker hstate
  unfold Turn.weighed
  cases hbeat : f.isHeartbeat with
  | false => exact ⟨_, hevents, hdecoder, hjudged.heard hbeat verdict⟩
  | true =>
      rw [if_pos rfl]
      cases hactive : (t.judge f verdict).link.tracker.active with
      | true =>
          obtain ⟨htracker', hstate', hevents', hdecoder'⟩ :=
            beat_of_present hactive q.time
          -- the link has been active since an earlier frame or an earlier poll
          have hthere := hjudged.present.mp hactive
          have hearlier : q.beats = true ∨ presence timeout past = .active := by
            have hstate := hjudged.state.symm.trans hthere
            cases hbeats : q.beats with
            | true => exact Or.inl rfl
            | false =>
                rw [hbeats] at hstate
                exact Or.inr hstate
          refine ⟨_, hevents'.trans hevents, hdecoder'.trans hdecoder,
            hjudged.beaten hbeat htracker' (hstate'.trans hthere) rfl ?_ rfl⟩
          rw [if_pos hearlier]
          rfl
      | false =>
          obtain ⟨htracker', hstate', hevents', hdecoder'⟩ :=
            beat_of_absent hactive q.time
          obtain ⟨hbeats, hpast⟩ := hjudged.absent hactive
          refine ⟨[.frame f verdict, .raised, .activated], ?_,
            hdecoder'.trans hdecoder,
            hjudged.beaten hbeat htracker' hstate' rfl ?_ rfl⟩
          · rw [hevents', hevents, List.append_assoc]
            rfl
          · rw [if_neg (by simp [hbeats, hpast])]
            rfl

/-! ## The end of a poll -/

/-- A look at the clock that finds the other side gone. -/
theorem Turn.endTick_of_deactivated {t : Turn ε} {now : Nat}
    (h : (t.link.tracker.poll now).2 = .deactivated) (cue : Cue) :
    (t.endTick now cue).2 =
      .parting (if t.link.policy.exitOnIdle then some .idle else none) ∧
      (t.endTick now cue).1.link.tracker = (t.link.tracker.poll now).1 ∧
      (t.endTick now cue).1.link.state = .idle ∧
      (t.endTick now cue).1.link.policy = t.link.policy ∧
      (t.endTick now cue).1.endpoint = t.endpoint ∧
      (t.endTick now cue).1.events = t.events ++ [.lowered, .idled] := by
  cases hwait : t.link.policy.waitForHeartbeat <;>
    cases hexit : t.link.policy.exitOnIdle <;>
    simp [endTick, checkDeadline, h, count, deactivate, note, setChannelActive,
      hwait, hexit]

/-- Any other look at the clock ends the link, if the deadline has passed and
the policy says so, or leaves it as it is. -/
theorem Turn.endTick_of_not_deactivated {t : Turn ε} {now : Nat}
    (h : (t.link.tracker.poll now).2 ≠ .deactivated) (cue : Cue) :
    t.endTick now cue =
      if t.link.policy.exitOnIdle = true ∧ t.link.tracker.deadline < now then
        (t.count fun s =>
          { s with
            parseErrors := t.link.decoder.stats.parseErrors }).leave .idle cue
      else
        (t.count fun s =>
          { s with parseErrors := t.link.decoder.stats.parseErrors },
          .waiting) := by
  by_cases hlate : t.link.tracker.deadline < now
  · have habsent : t.link.tracker.active = false := by
      cases hactive : t.link.tracker.active with
      | false => rfl
      | true =>
          refine absurd ?_ h
          simp [Tracker.poll, Nat.not_le.mpr hlate, hactive]
    have hexpired : (t.link.tracker.poll now).2 = .expired := by
      simp [Tracker.poll, Nat.not_le.mpr hlate, habsent]
    have hpoll : t.link.tracker.poll now = (t.link.tracker, .expired) :=
      Prod.ext (poll_eq_self h) hexpired
    cases hexit : t.link.policy.exitOnIdle <;>
      simp [endTick, checkDeadline, count, hpoll, hexit, hlate]
  · have hpoll : t.link.tracker.poll now = (t.link.tracker, .unchanged) :=
      if_pos (Nat.not_lt.mp hlate)
    simp [endTick, checkDeadline, count, hpoll, hlate]

/-- A poll of which `ahead` is still to be decided on, after lawful ones. -/
def Amid (timeout : Nat) (polls : List Poll) (now : Nat) (ahead : List Frame)
    (l : Link) : Prop :=
  ∃ (p : Poll) (past : List Poll) (seen : List Frame), polls = p :: past ∧
    p.time = now ∧
    p.frames = seen ++ ahead ∧ Midway timeout past { p with frames := seen } l ∧
    AllLawful timeout past

/-- What holds of a link where it waits.  In the middle of a poll, what is still
to come is what the decoder will make of the bytes that are left. -/
def Keeping (timeout : Nat) (polls : List Poll) (l : Link) : Stand → Prop
  | .judging now f rest =>
      Amid timeout polls now (f :: (l.decoder.pushAll rest).2) l
  | .greeting now rest => Amid timeout polls now (l.decoder.pushAll rest).2 l
  | .ending | .finished => True
  | .connected => polls = [] ∧ Settled timeout [] l
  | _ => Settled timeout polls l ∧ AllLawful timeout polls

/-- A stretch of work within a poll: the link has ended, or more is on record
and the link is what the diary says. -/
def Advances (timeout : Nat) (polls : List Poll) (t : Turn ε)
    (result : Turn ε × Stand) : Prop :=
  result.2.isPast = true ∨ ∃ told, result.1.events = t.events ++ told ∧
    Keeping timeout (tell told polls) result.1.link result.2

variable {polls : List Poll} {now : Nat}

/-- What is on record already is part of what comes to be on record. -/
theorem Advances.after {t t₁ : Turn ε} {told : List Event}
    (hevents : t₁.events = t.events ++ told) {result : Turn ε × Stand}
    (h : Advances timeout (tell told polls) t₁ result) :
    Advances timeout polls t result := by
  rcases h with hpast | ⟨more, hmore, hkeeping⟩
  · exact Or.inl hpast
  · refine Or.inr ⟨told ++ more, ?_, ?_⟩
    · rw [hmore, hevents, List.append_assoc]
    · rw [tell_append]
      exact hkeeping

/-- What has no part in it does not matter. -/
theorem Advances.of_same {t t₁ : Turn ε} (hevents : t₁.events = t.events)
    {result : Turn ε × Stand} (h : Advances timeout polls t₁ result) :
    Advances timeout polls t result := by
  unfold Advances at h ⊢
  rwa [← hevents]

/-- The other side was there, and the deadline has passed. -/
theorem Midway.endTick_gone {p : Poll} {t : Turn ε}
    (h : Midway timeout past p t.link) (hlaw : AllLawful timeout past)
    (cue : Cue) (hgone : (t.link.tracker.poll p.time).2 = .deactivated) :
    Advances timeout (p :: past) t (t.endTick p.time cue) := by
  obtain ⟨hstand, htracker, hstate, _, _, hevents⟩ :=
    endTick_of_deactivated hgone cue
  have hlate : ¬p.time ≤ t.link.tracker.deadline := by
    intro hin
    simp [Tracker.poll, hin] at hgone
  have hactive : t.link.tracker.active = true := by
    cases hactive : t.link.tracker.active with
    | true => rfl
    | false => simp [Tracker.poll, hlate, hactive] at hgone
  have hbeats : p.beats = false := by
    by_contra hbeats
    have hdeadline :=
      h.deadline p.time (lastBeat_of_beats (by simpa using hbeats) past)
    omega
  have hpast : presence timeout past = .active := by
    have hstate := h.state.symm.trans (h.present.mp hactive)
    rwa [hbeats] at hstate
  obtain ⟨beat, hlast, hpresence⟩ := presence_of_active hbeats hpast
  have hdeadline :=
    h.deadline beat ((lastBeat_of_not_beats hbeats past).trans hlast)
  have hover : ¬p.time ≤ beat + timeout := by omega
  refine Or.inr ⟨_, hevents, ?_⟩
  rw [hstand]
  refine ⟨⟨?_, ?_, ?_, ?_⟩, ⟨?_, ?_, ?_⟩, hlaw⟩
  · rw [htracker, Tracker.timeout_poll, h.span]
  · rw [hstate, presence_tell, hpresence, if_neg hover]
  · rw [htracker, hstate]
    simp [Tracker.poll, hlate]
  · intro beat' hlast'
    rw [lastBeat_tell] at hlast'
    rw [htracker, Tracker.deadline_poll]
    exact h.deadline beat' hlast'
  · rw [List.filterMap_append, h.frames]
    simp [Event.frame?]
  · rw [List.countP_append, h.activated]
    rfl
  · have hover' : p.isLate timeout past = true := by
      simp [Poll.isLate, hlast, Nat.not_le.mp hover]
    rw [List.countP_append, h.idled, if_pos ⟨hpast, hbeats, hover'⟩]
    rfl

/-- The other side is where it was. -/
theorem Midway.endTick_still {p : Poll} {t : Turn ε}
    (h : Midway timeout past p t.link)
    (horder : ∀ q ∈ past.head?, q.time ≤ p.time) (hlaw : AllLawful timeout past)
    (cue : Cue) (hgone : (t.link.tracker.poll p.time).2 ≠ .deactivated) :
    Advances timeout (p :: past) t (t.endTick p.time cue) := by
  rw [endTick_of_not_deactivated hgone cue]
  split
  · exact Or.inl rfl
  · refine Or.inr ⟨[], (List.append_nil _).symm, ?_⟩
    rw [tell_nil]
    have hintime (hactive : presence timeout past = .active)
        (hbeats : p.beats = false)
        {beat : Nat} (hlast : lastBeat past = some beat) :
        p.time ≤ beat + timeout := by
      have hthere := h.state
      rw [hbeats] at hthere
      have hpresent := h.present.mpr (hthere.trans hactive)
      have hdeadline :=
        h.deadline beat ((lastBeat_of_not_beats hbeats past).trans hlast)
      by_contra hover
      apply hgone
      rw [← hdeadline] at hover
      simp [Tracker.poll, hover, hpresent]
    refine ⟨⟨h.span, Eq.trans h.state ?_, h.present, h.deadline⟩,
      ⟨h.frames, h.activated, ?_⟩, hlaw⟩
    · cases hbeats : p.beats with
      | true => exact (presence_of_beats hbeats timeout past).symm
      | false =>
          by_cases hactive : presence timeout past = .active
          · obtain ⟨beat, hlast, hpresence⟩ := presence_of_active hbeats hactive
            rw [hpresence, if_pos (hintime hactive hbeats hlast)]
            exact hactive
          · exact (presence_of_not_active hbeats hactive horder).symm
    · rw [h.idled, if_neg]
      rintro ⟨hactive, hbeats, hlate⟩
      obtain ⟨beat, hlast, _⟩ := presence_of_active hbeats hactive
      have hin := hintime hactive hbeats hlast
      simp only [Poll.isLate, hlast, Option.any_some, decide_eq_true_eq]
        at hlate
      omega

/-- **The end of a poll.**  The deadline is looked at, and what the link is then
is what the diary says with this poll as the latest. -/
theorem Midway.endTick {p : Poll} {t : Turn ε}
    (h : Midway timeout past p t.link)
    (horder : ∀ q ∈ past.head?, q.time ≤ p.time) (hlaw : AllLawful timeout past)
    (cue : Cue) :
    Advances timeout (p :: past) t (t.endTick p.time cue) := by
  by_cases hgone : (t.link.tracker.poll p.time).2 = .deactivated
  · exact h.endTick_gone hlaw cue hgone
  · exact h.endTick_still horder hlaw cue hgone

/-- **Decoding goes on** up to the next frame, or to the end of the poll. -/
theorem Amid.takeIn {t : Turn ε} {bytes : Bytes}
    (h : Amid timeout polls now (t.link.decoder.pushAll bytes).2 t.link)
    (horder : InOrder polls) (cue : Cue) :
    Advances timeout polls t (t.takeIn now cue bytes) := by
  induction bytes generalizing t with
  | nil =>
      obtain ⟨p, past, seen, rfl, rfl, hframes, hmid, hlaw⟩ := h
      obtain rfl : p.frames = seen := hframes.trans (List.append_nil seen)
      have hhead : ∀ q ∈ past.head?, q.time ≤ p.time := by
        intro q hq
        exact (List.pairwise_cons.mp horder).1 q (List.mem_of_mem_head? hq)
      exact hmid.endTick hhead hlaw cue
  | cons b rest ih =>
      have hpush : (t.link.decoder.pushAll (b :: rest)).2 =
          (t.link.decoder.push b).2.toList ++
            ((t.link.decoder.push b).1.pushAll rest).2 := rfl
      have hsame (ahead : List Frame)
          (hahead : Amid timeout polls now ahead t.link) :
          Amid timeout polls now ahead (t.decode b).1.link := by
        obtain ⟨p, past, seen, hpolls, htime, hframes, hmid, hlaw⟩ := hahead
        exact ⟨p, past, seen, hpolls, htime, hframes,
          hmid.of_same rfl rfl, hlaw⟩
      have hahead := hsame _ h
      rw [hpush] at hahead
      unfold Turn.takeIn
      have hdecode : t.decode b = ((t.decode b).1, (t.link.decoder.push b).2) :=
        rfl
      rw [hdecode]
      cases hframe : (t.link.decoder.push b).2 with
      | none =>
          rw [hframe] at hahead
          have hevents : (t.decode b).1.events = t.events := rfl
          exact .of_same hevents (ih hahead)
      | some f =>
          rw [hframe] at hahead
          exact Or.inr
            ⟨[], (List.append_nil _).symm, (tell_nil polls).symm ▸ hahead⟩

/-- **The handler has decided** on a frame, and decoding goes on. -/
theorem Amid.weigh {t : Turn ε} {f : Frame} {rest : Bytes}
    (h : Amid timeout polls now (f :: (t.link.decoder.pushAll rest).2) t.link)
    (horder : InOrder polls) (cue : Cue) :
    Advances timeout polls t (t.weigh now f rest cue) := by
  obtain ⟨p, past, seen, rfl, rfl, hframes, hmid, hlaw⟩ := h
  obtain ⟨told, hevents, hdecoder, hmid'⟩ := hmid.weighed f cue.verdict
  have hahead : Amid timeout (tell told (p :: past)) p.time
      ((t.weighed p.time f cue.verdict).link.decoder.pushAll rest).2
      (t.weighed p.time f cue.verdict).link := by
    refine ⟨_, past, seen ++ [f], rfl, rfl, ?_, hmid', hlaw⟩
    rw [hdecoder, hframes, List.append_assoc]
    rfl
  have horder' := (inOrder_tell told (p :: past)).mpr horder
  have hgoes : Advances timeout (p :: past) t
      ((t.weighed p.time f cue.verdict).takeIn p.time cue rest) :=
    .after hevents (hahead.takeIn horder' cue)
  have hgreets : Advances timeout (p :: past) t
      (t.weighed p.time f cue.verdict, .greeting p.time rest) :=
    Or.inr ⟨told, hevents, hahead⟩
  rcases Turn.weigh_cases p.time f rest cue t with heq | heq
  · rwa [heq]
  · rwa [heq]

variable [Endpoint ε]

/-- **A poll begins**: what is read is what will be decided on. -/
theorem Settled.startTick {t : Turn ε} {config : LinkConfig} {cue : Cue}
    (h : Settled timeout past t.link) (hlaw : AllLawful timeout past)
    (horder : InOrder (⟨cue.now, t.arrivals config, []⟩ :: past)) :
    Advances timeout (⟨cue.now, t.arrivals config, []⟩ :: past) t
      (t.startTick config cue) := by
  obtain ⟨t', hsame, ⟨_, exit, heq⟩ | heq⟩ := t.startTick_cases config cue
  · rw [heq]
    exact Or.inl rfl
  · have hmid := (h.of_same hsame.tracker hsame.state).midway cue.now
    unfold Turn.arrivals at horder ⊢
    rw [← hsame.decoder] at horder ⊢
    rw [heq]
    have hahead : Amid timeout
        (⟨cue.now, (t'.link.decoder.pushAll (t.intake config)).2, []⟩ :: past)
        cue.now (t'.link.decoder.pushAll (t.intake config)).2 t'.link :=
      ⟨_, past, [], rfl, rfl, rfl, hmid, hlaw⟩
    exact .of_same hsame.events (hahead.takeIn horder cue)

/-! ## Links on their way -/

/-- A link that has ended keeps no diary. -/
theorem keeping_of_past (timeout : Nat) (polls : List Poll) (l : Link)
    {stand : Stand} (h : stand.isPast = true) :
    Keeping timeout polls l stand := by
  cases stand with
  | ending => trivial
  | finished => trivial
  | _ => cases h

/-- A link that has not ended and has decoded all that it read is what its diary
says. -/
theorem Keeping.settled {stand : Stand} (h : Keeping timeout polls l stand)
    (hdecoded : stand.isDecoding = false) (hlive : ¬stand.isPast = true) :
    Settled timeout polls l ∧ AllLawful timeout polls := by
  cases stand with
  | connected =>
      obtain ⟨rfl, hsettled⟩ := h
      exact ⟨hsettled, trivial⟩
  | judging => cases hdecoded
  | greeting => cases hdecoded
  | ending => exact absurd rfl hlive
  | finished => exact absurd rfl hlive
  | _ => exact h

omit [Endpoint ε] in
/-- What has come on record is entered. -/
theorem Advances.enter {t : Turn ε} {result : Turn ε × Stand}
    (h : Advances timeout polls t result) :
    Keeping timeout (tell (result.1.events.drop t.events.length) polls)
      result.1.link
      result.2 := by
  rcases h with hpast | ⟨told, hevents, hkeeping⟩
  · exact keeping_of_past _ _ _ hpast
  · rwa [hevents, List.drop_left]

omit [Endpoint ε] in
/-- To begin is to say so. -/
theorem Turn.begin_same (t : Turn ε) :
    t.begin.link = t.link ∧ t.begin.endpoint = t.endpoint ∧
      t.begin.events =
        t.events ++ [.begun t.link.channel t.link.transport] := by
  cases hwait : t.link.policy.waitForHeartbeat <;>
    simp [begin, hwait, note, setChannelActive]

/-- **A stretch of work**: what the link is then is what the diary says. -/
theorem Keeping.resume {t : Turn ε} {config : LinkConfig} {cue : Cue}
    {stand : Stand} (h : Keeping timeout polls t.link stand)
    (horder : InOrder (t.page config cue stand polls)) :
    Advances timeout (t.page config cue stand polls) t
      (t.resume config cue stand) := by
  cases stand with
  | connected =>
      obtain ⟨rfl, hsettled⟩ := h
      obtain ⟨hlink, _, hevents⟩ := t.begin_same
      refine Or.inr ⟨_, hevents, hsettled.of_same ?_ ?_, trivial⟩
      · exact congrArg Link.tracker hlink
      · exact congrArg Link.state hlink
  | beginning =>
      exact Or.inr ⟨[], (List.append_nil _).symm, (tell_nil polls).symm ▸ h⟩
  | waiting => exact h.1.startTick h.2 horder
  | judging now f rest => exact Amid.weigh h horder cue
  | greeting now rest => exact Amid.takeIn h horder cue
  | parting exit =>
      cases exit with
      | none =>
          exact Or.inr ⟨[], (List.append_nil _).symm, (tell_nil polls).symm ▸ h⟩
      | some exit => exact Or.inl rfl
  | ending => exact Or.inl rfl
  | finished => exact Or.inl rfl

/-! ## Links on their way -/

/-- The diary of a link in time: the polls only become more, and no later. -/
theorem inOrder_of_page {t : Turn ε} {config : LinkConfig} {cue : Cue}
    {stand : Stand} (h : InOrder (t.page config cue stand polls)) :
    InOrder polls := by
  cases stand with
  | waiting => exact (List.pairwise_cons.mp h).2
  | _ => exact h

namespace Traffic

variable {w : Traffic ε} {k : Nat} {c : Course ε}

/-- A diary is in order if it is so with one act more. -/
theorem inOrder_of_enter {a : Act ε} (h : InOrder (w.enter k polls a)) :
    InOrder polls := by
  cases a with
  | resume j cue =>
      simp only [enter] at h
      split at h
      · split at h
        · exact inOrder_of_page ((inOrder_tell _ _).mp h)
        · exact h
      · exact h
  | _ => exact h

/-- A diary is in order if it is so at the end of the run. -/
theorem inOrder_of_pollsOver {acts : List (Act ε)}
    (h : InOrder (pollsOver k w polls acts)) :
    InOrder polls := by
  induction acts generalizing w polls with
  | nil => exact h
  | cons a acts ih => exact inOrder_of_enter (ih h)

/-- **One act** keeps link `k` what its diary says. -/
theorem keeping_act (hk : w.courses[k]? = some c)
    (h : Keeping timeout polls c.link c.stand) (a : Act ε)
    (horder : InOrder (w.enter k polls a)) :
    ∃ c', (w.act a).courses[k]? = some c' ∧
      Keeping timeout (w.enter k polls a) c'.link c'.stand := by
  by_cases hown : ∃ cue, a = .resume k cue
  · obtain ⟨cue, rfl⟩ := hown
    have henter : w.enter k polls (.resume k cue) =
        c.enter w.board cue polls := by
      simp only [enter, hk, if_true]
    rw [henter] at horder ⊢
    rw [act_resume hk, courses_commit hk, if_pos rfl]
    exact ⟨_, rfl, (h.resume ((inOrder_tell _ _).mp horder)).enter⟩
  · have hsame : w.enter k polls a = polls := by
      cases a with
      | resume j cue =>
          have hjk : j ≠ k := by
            rintro rfl
            exact hown ⟨cue, rfl⟩
          simp only [enter, if_neg hjk]
          split <;> rfl
      | _ => rfl
    rw [hsame]
    rcases course_act hk a with hsame | ⟨t, stand, hwork, _, hk'⟩
    · exact ⟨c, hsame, h⟩
    · refine ⟨c.after t stand, hk', ?_⟩
      cases hwork with
      | resume cue => exact absurd ⟨cue, rfl⟩ hown
      | drop => trivial
      | far f => exact h

/-- **Any acts in any order** do. -/
theorem keeping_run (hk : w.courses[k]? = some c)
    (h : Keeping timeout polls c.link c.stand) (acts : List (Act ε))
    (horder : InOrder (pollsOver k w polls acts)) :
    ∃ c', (w.run acts).courses[k]? = some c' ∧
      Keeping timeout (pollsOver k w polls acts) c'.link c'.stand := by
  induction acts generalizing w c polls with
  | nil => exact ⟨c, hk, h⟩
  | cons a acts ih =>
      obtain ⟨c₁, hk₁, h₁⟩ := keeping_act hk h a (inOrder_of_pollsOver horder)
      exact ih hk₁ h₁ horder

end Traffic

end GroundLink
