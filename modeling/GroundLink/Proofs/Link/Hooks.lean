import GroundLink.Link.Hooks
import GroundLink.Presence.Sighting
import GroundLink.Proofs.Link.Teardown

/-!
# The calls of a handler

A link calls its handler from five places, and all that it keeps between two
calls is its tracker.  That is enough: the tracker knows whether the other side
is there, and that is whether the next thing to say of the other side is that it
is gone or that it has come (`Hook.Called`).

`Serving` puts the calls of a link beside what it is, and a stretch of work
keeps that (`Serving.resume`): either the link waits for its handler again, or
it is given up as it is, with all decoded that it has read.  `Attends` says what
that comes to for a link where it waits, whatever happens
(`Traffic.attends_run`).
-/

namespace GroundLink

namespace Hook

/-! ## Calls up to now -/

/-- **The calls of a link that has not ended**, and whether the other side is
there by them. -/
inductive Called : Bool → List Hook → Prop
  | begun : Called false [begun]
  | frame {there : Bool} {hooks : List Hook} (f : Frame)
      (h : Called there hooks) :
      Called there (hooks ++ [frame f])
  | activated {hooks : List Hook} {f : Frame}
      (h : Called false (hooks ++ [frame f]))
      (beats : f.isHeartbeat = true) :
      Called true (hooks ++ [frame f] ++ [activated])
  | idled {hooks : List Hook} (h : Called true hooks) :
      Called false (hooks ++ [idled])

variable {there : Bool} {hooks : List Hook} {hook : Hook}

/-- The link has begun, once and first, and has not ended. -/
def IsOpen (hooks : List Hook) : Prop :=
  ∃ between, hooks = begun :: between ∧ begun ∉ between ∧ ended ∉ between

/-- Calls in between neither begin nor end a link. -/
theorem IsOpen.concat (h : IsOpen hooks) (hbegun : hook ≠ begun)
    (hended : hook ≠ ended) :
    IsOpen (hooks ++ [hook]) := by
  obtain ⟨between, rfl, hbegun', hended'⟩ := h
  refine ⟨between ++ [hook], rfl, ?_, ?_⟩
  · simp [hbegun', hbegun.symm]
  · simp [hended', hended.symm]

/-- The other side has come and gone by turns, and what was said last is whether
it is there. -/
def ByTurns (there : Bool) (hooks : List Hook) : Prop :=
  (false :: hooks.filterMap presence?).IsChain (· ≠ ·) ∧
    (false :: hooks.filterMap presence?).getLast? = some there

/-- A call that says nothing of the other side takes no turn. -/
theorem ByTurns.concat_silent (h : ByTurns there hooks)
    (hhook : hook.presence? = none) :
    ByTurns there (hooks ++ [hook]) := by
  unfold ByTurns
  rw [List.filterMap_append, List.filterMap_cons_none hhook, List.filterMap_nil,
    List.append_nil]
  exact h

/-- A call that says the opposite of the last one takes its turn. -/
theorem ByTurns.concat_turn (h : ByTurns there hooks)
    (hhook : hook.presence? = some !there) :
    ByTurns (!there) (hooks ++ [hook]) := by
  unfold ByTurns
  rw [List.filterMap_append, List.filterMap_cons_some hhook, List.filterMap_nil,
    ← List.cons_append]
  exact ⟨isChain_concat_not h.1 h.2, List.getLast?_concat⟩

/-- Whenever the other side has come, a heartbeat was decided on right
before. -/
def Prompted (hooks : List Hook) : Prop :=
  ∀ before after, hooks = before ++ activated :: after →
    ∃ earlier f, before = earlier ++ [frame f] ∧ f.isHeartbeat = true

/-- A call is the last one, or it was made before the last one. -/
theorem eq_append_of_concat {before after : List Hook} {other : Hook}
    (h : hooks ++ [hook] = before ++ other :: after) :
    hook = other ∧ hooks = before ∨ ∃ after',
    hooks = before ++ other :: after' := by
  rcases after.eq_nil_or_concat with rfl | ⟨after', last, rfl⟩
  · obtain ⟨rfl, hlast⟩ := List.append_inj' h rfl
    exact Or.inl ⟨List.cons.inj hlast |>.1, rfl⟩
  · rw [List.concat_eq_append, ← List.cons_append, ← List.append_assoc] at h
    exact Or.inr ⟨after', (List.append_inj' h rfl).1⟩

/-- Only `activated` has to be prompted. -/
theorem Prompted.concat (h : Prompted hooks) (hhook : hook ≠ activated) :
    Prompted (hooks ++ [hook]) := by
  intro before after heq
  rcases eq_append_of_concat heq with ⟨hlast, _⟩ | ⟨after', hearlier⟩
  · exact absurd hlast hhook
  · exact h before after' hearlier

/-- The first call is that the link has begun, and it is not made again. -/
theorem Called.isOpen (h : Called there hooks) : IsOpen hooks := by
  induction h with
  | begun => exact ⟨[], rfl, nofun, nofun⟩
  | frame f h ih => exact ih.concat nofun nofun
  | activated h beats ih => exact ih.concat nofun nofun
  | idled h ih => exact ih.concat nofun nofun

/-- No call has said yet that the link has ended. -/
theorem Called.not_ended (h : Called there hooks) : .ended ∉ hooks := by
  obtain ⟨between, rfl, _, hended⟩ := h.isOpen
  simpa using hended

/-- In this order the other side comes and goes by turns. -/
theorem Called.byTurns (h : Called there hooks) : ByTurns there hooks := by
  induction h with
  | begun => exact ⟨.singleton _, rfl⟩
  | frame f h ih => exact ih.concat_silent rfl
  | activated h beats ih => exact ih.concat_turn rfl
  | idled h ih => exact ih.concat_turn rfl

/-- A heartbeat is the only way for the other side to come. -/
theorem Called.prompted (h : Called there hooks) : Prompted hooks := by
  induction h with
  | begun =>
      intro before after heq
      cases before <;> simp at heq
  | frame f h ih => exact ih.concat nofun
  | activated h beats ih =>
      intro before after heq
      rcases eq_append_of_concat heq with ⟨_, rfl⟩ | ⟨after', hearlier⟩
      · exact ⟨_, _, rfl, beats⟩
      · exact ih before after' hearlier
  | idled h ih => exact ih.concat nofun

/-- The other side has come once more than it has gone if it is there. -/
theorem Called.balance (h : Called there hooks) :
    hooks.count .activated = hooks.count .idled + there.toNat := by
  induction h with
  | begun => rfl
  | frame f h ih => simpa using ih
  | activated h beats ih => simpa using ih
  | idled h ih => simpa using ih

/-- **To say that the link has ended** makes these the calls of a whole life. -/
theorem Called.inTurn (h : Called there hooks) :
    InTurn (hooks ++ [.ended]) := by
  obtain ⟨between, hbetween, hbegun, hended⟩ := h.isOpen
  refine ⟨⟨between, by rw [hbetween]; rfl, hbegun, hended⟩, ?_, ?_⟩
  · exact (h.byTurns.concat_silent rfl).1
  · exact h.prompted.concat nofun

end Hook

namespace Stand

/-- At most one answer is missing. -/
theorem length_asked_le (stand : Stand) : stand.asked.length ≤ 1 := by
  cases stand with
  | judging now f rest => exact Nat.le_refl 1
  | _ => exact Nat.zero_le 1

/-- At the end nothing is missing. -/
theorem asked_of_isPast {stand : Stand} (h : stand.isPast = true) :
    stand.asked = [] ∧ stand.undecoded = [] := by
  cases stand with
  | ending => exact ⟨rfl, rfl⟩
  | finished => exact ⟨rfl, rfl⟩
  | _ => cases h

end Stand

variable {ε : Type} {t : Turn ε} {l l' : Link} {events : List Event}
  {hooks asked : List Hook} {decoded received : Bytes} {state : LinkState}
  {cue : Cue}

/-! ## Links that have not ended -/

/-- **A link that has begun and not ended**, and has decoded these bytes.  The
calls that are `asked` have not been put on record yet. -/
structure Serving (hooks asked : List Hook) (decoded : Bytes) (l : Link)
    (events : List Event) :
    Prop where
  live : l.state ≠ .terminated
  present : l.tracker.active = true ↔ l.state = .active
  called : Hook.Called l.tracker.active hooks
  heard : hearing decoded = (l.decoder, hooks.filterMap Hook.frame?)
  recorded : hooks = events.filterMap Event.hook? ++ asked

/-- Only state, tracker and decoder matter to what the handler was told. -/
theorem Serving.of_same (h : Serving hooks asked decoded l events)
    (hstate : l'.state = l.state) (htracker : l'.tracker = l.tracker)
    (hdecoder : l'.decoder = l.decoder) :
    Serving hooks asked decoded l' events :=
  ⟨hstate ▸ h.live, by rw [htracker, hstate]; exact h.present,
    htracker ▸ h.called, hdecoder ▸ h.heard, h.recorded⟩

/-- The other side is there by the calls if the link is active. -/
theorem Serving.balance (h : Serving hooks asked decoded l events) :
    hooks.count .activated = hooks.count .idled +
      if l.state = .active then 1 else 0 := by
  rw [h.called.balance]
  by_cases hactive : l.state = .active
  · rw [h.present.mpr hactive, if_pos hactive]
    rfl
  · rw [Bool.eq_false_iff.mpr (mt h.present.mp hactive), if_neg hactive]
    rfl

/-- A look at the clock that finds the other side gone found it there before. -/
theorem Tracker.of_deactivated {tracker : Tracker} {now : Nat}
    (h : (tracker.poll now).2 = .deactivated) :
    tracker.active = true ∧ (tracker.poll now).1.active = false := by
  unfold Tracker.poll at h ⊢
  split at h
  · cases h
  · next hlate =>
      rw [if_neg hlate]
      refine ⟨?_, rfl⟩
      by_contra habsent
      simp [habsent] at h

namespace Turn

/-- **What becomes of a link in a stretch of work.**  It waits for its handler
again, or for the next poll; or else it is given up in the state in which it
was, with all decoded that it has read and without a call before the last. -/
def Serves (state : LinkState) (hooks : List Hook) (received : Bytes)
    (cue : Cue) (result : Turn ε × Stand) : Prop :=
  (result.2.isUnderWay = true ∧ ∃ decoded,
    received = decoded ++ result.2.undecoded ∧
      Serving (hooks ++ result.2.hook?.toList) result.2.asked decoded
        result.1.link
        result.1.events) ∨
    ∃ (t : Turn ε) (exit : Exit), result = t.leave exit cue ∧
      t.link.state = state ∧
      Serving hooks [] received t.link t.events

/-- A byte is taken in by the decoder, and by nothing else. -/
theorem decode_eq (b : UInt8) (t : Turn ε) :
    t.decode b = ((t.decode b).1, (t.link.decoder.push b).2) := rfl

/-- A link that finds the other side gone has nothing left to decode. -/
theorem decoder_endTick_of_deactivated {now : Nat}
    (h : (t.link.tracker.poll now).2 = .deactivated) (cue : Cue) :
    (t.endTick now cue).1.link.decoder = t.link.decoder := by
  cases hwait : t.link.policy.waitForHeartbeat <;>
    cases hexit : t.link.policy.exitOnIdle <;>
    simp [endTick, checkDeadline, h, count, deactivate, note, setChannelActive,
      hwait, hexit]

/-- The link says that it is active if a heartbeat finds the other side not
there; otherwise it goes on decoding. -/
theorem weigh_eq (now : Nat) (f : Frame) (rest : Bytes) (cue : Cue)
    (t : Turn ε) :
    t.weigh now f rest cue =
      if f.isHeartbeat = true ∧ t.link.tracker.active = false then
        (t.weighed now f cue.verdict, .greeting now rest)
      else (t.weighed now f cue.verdict).takeIn now cue rest := by
  have htracker := (judge_same f cue.verdict t).1
  unfold weigh weighed
  cases f.isHeartbeat with
  | false => rfl
  | true =>
      dsimp only
      rw [htracker]
      cases t.link.tracker.active <;> rfl

/-- What is said of the count at the end is no call. -/
theorem hooks_release (t : Turn ε) :
    t.release.events.filterMap Event.hook? =
      t.events.filterMap Event.hook? := by
  by_cases hactive : t.link.state = .active
  · rw [(release_of_active hactive).2, List.filterMap_append]
    exact List.append_nil _
  · rw [(release_of_not_active hactive).2]

/-- The end is one call more on record. -/
theorem hooks_leave (exit : Exit) (cue : Cue) (t : Turn ε) :
    (t.leave exit cue).1.events.filterMap Event.hook? =
      t.events.filterMap Event.hook? ++ [.ended] := by
  have hwords : cue.lastWords.filterMap Event.hook? = [] := by
    rw [List.filterMap_eq_nil_iff]
    intro e he
    obtain ⟨total, _, rfl⟩ := List.mem_map.mp he
    rfl
  rw [events_leave, List.filterMap_append, hooks_release,
    List.filterMap_cons_none rfl, List.filterMap_append, hwords]
  rfl

end Turn

open Turn

/-! ## Stretches of work -/

/-- The other side was there, and the deadline has passed: the handler is
told. -/
theorem Serving.endTick_gone (h : Serving hooks [] received t.link t.events)
    {now : Nat} (hgone : (t.link.tracker.poll now).2 = .deactivated)
    (cue : Cue) :
    Serves t.link.state hooks received cue (t.endTick now cue) := by
  obtain ⟨hstand, htracker, hstate, _, _, hevents⟩ :=
    endTick_of_deactivated hgone cue
  obtain ⟨hthere, hnowhere⟩ := Tracker.of_deactivated hgone
  have hdecoder := decoder_endTick_of_deactivated hgone cue
  have hcalled := hthere ▸ h.called
  refine Or.inl ?_
  -- whether the link will end is in the stand, and makes no difference to what
  -- it is now
  rw [hstand]
  refine ⟨rfl, received, (List.append_nil _).symm, ?_, ?_, ?_, ?_, ?_⟩
  · rw [hstate]
    exact LinkState.noConfusion
  · rw [htracker, hnowhere, hstate]
    exact ⟨nofun, nofun⟩
  · rw [htracker, hnowhere]
    exact hcalled.idled
  · rw [hdecoder, h.heard]
    simp [Stand.hook?, Hook.frame?]
  · rw [hevents, h.recorded]
    simp only [List.filterMap_append, List.append_nil, List.append_assoc]
    rfl

/-- **The end of a tick.**  If the other side was there and the deadline has
passed, the handler is told; otherwise nothing is said, and the link may be
given up. -/
theorem Serving.endTick (h : Serving hooks [] received t.link t.events)
    (now : Nat) (cue : Cue) :
    Serves t.link.state hooks received cue (t.endTick now cue) := by
  by_cases hgone : (t.link.tracker.poll now).2 = .deactivated
  · exact h.endTick_gone hgone cue
  · rw [endTick_of_not_deactivated hgone cue]
    split
    · exact Or.inr ⟨_, .idle, rfl, rfl, h.of_same rfl rfl rfl⟩
    · refine Or.inl ⟨rfl, received, (List.append_nil _).symm, ?_⟩
      exact (List.append_nil hooks).symm ▸ h.of_same rfl rfl rfl

/-- **Decoding goes on** up to the next frame, which is what the handler is
called for next, or to the end of the tick. -/
theorem Serving.takeIn (h : Serving hooks [] decoded t.link t.events)
    (now : Nat) (cue : Cue) (bytes : Bytes) :
    Serves t.link.state hooks (decoded ++ bytes) cue
      (t.takeIn now cue bytes) := by
  induction bytes generalizing t decoded with
  | nil =>
      rw [List.append_nil]
      exact h.endTick now cue
  | cons b rest ih =>
      have hheard := hearing_append decoded b
      rw [h.heard] at hheard
      unfold Turn.takeIn
      rw [decode_eq, List.append_cons]
      cases hframe : (t.link.decoder.push b).2 with
      | none =>
          rw [hframe] at hheard
          have hnext : Serving hooks [] (decoded ++ [b]) (t.decode b).1.link
              (t.decode b).1.events :=
            ⟨h.live, h.present, h.called,
              hheard.trans (by simp [Turn.decode, count]), h.recorded⟩
          exact ih hnext
      | some f =>
          rw [hframe] at hheard
          refine Or.inl
            ⟨rfl, decoded ++ [b], rfl, h.live, h.present, h.called.frame f,
              hheard.trans ?_, ?_⟩
          · simp [Turn.decode, count, Stand.hook?, Hook.frame?]
          · rw [h.recorded]
            simp [Turn.decode, count, Stand.hook?, Stand.asked]

/-- The handler has decided on a frame, and there is nothing else to tell it. -/
theorem Serving.weighed {f : Frame}
    (h : Serving hooks [.frame f] decoded t.link t.events)
    (hnothing : ¬(f.isHeartbeat = true ∧ t.link.tracker.active = false))
    (now : Nat) (verdict : Except Refusal Unit) :
    Serving hooks [] decoded (t.weighed now f verdict).link
      (t.weighed now f verdict).events ∧
      (t.weighed now f verdict).link.state = t.link.state := by
  obtain ⟨htracker, hstate, hevents, hdecoder⟩ := judge_same f verdict t
  have hjudged : Serving hooks [] decoded (t.judge f verdict).link
      (t.judge f verdict).events := by
    refine { h.of_same hstate htracker hdecoder with recorded := ?_ }
    rw [hevents, h.recorded]
    simp [Event.hook?]
  unfold Turn.weighed
  cases hbeat : f.isHeartbeat with
  | false => exact ⟨hjudged, hstate⟩
  | true =>
      have hthere : (t.judge f verdict).link.tracker.active = true := by
        rw [htracker]
        simpa [hbeat] using hnothing
      obtain ⟨htracker', hstate', hevents', hdecoder'⟩ :=
        beat_of_present hthere now
      refine ⟨⟨hstate' ▸ hjudged.live, ?_, ?_, hdecoder' ▸ hjudged.heard, ?_⟩,
        hstate'.trans hstate⟩
      · rw [if_pos rfl, htracker', hstate']
        exact ⟨fun _ => hjudged.present.mp hthere, fun _ => rfl⟩
      · have hcalled := hjudged.called
        rw [hthere] at hcalled
        rw [if_pos rfl, htracker']
        exact hcalled
      · rw [if_pos rfl, hevents']
        exact hjudged.recorded

/-- The handler has decided on a heartbeat, and is told next that the other side
is there. -/
theorem Serving.greeted {f : Frame}
    (h : Serving hooks [.frame f] decoded t.link t.events)
    (hbeat : f.isHeartbeat = true) (habsent : t.link.tracker.active = false)
    (now : Nat) (verdict : Except Refusal Unit) :
    Serving (hooks ++ [.activated]) [] decoded (t.weighed now f verdict).link
      (t.weighed now f verdict).events := by
  obtain ⟨htracker, hstate, hevents, hdecoder⟩ := judge_same f verdict t
  obtain ⟨htracker', hstate', hevents', hdecoder'⟩ :=
    beat_of_absent
      (htracker ▸ habsent : (t.judge f verdict).link.tracker.active = false) now
  have hcalled := habsent ▸ h.called
  rw [h.recorded] at hcalled
  unfold Turn.weighed
  rw [if_pos hbeat]
  refine ⟨?_, ?_, ?_, ?_, ?_⟩
  · rw [hstate']
    exact LinkState.noConfusion
  · rw [htracker', hstate']
    exact ⟨fun _ => rfl, fun _ => rfl⟩
  · rw [htracker', h.recorded]
    exact hcalled.activated hbeat
  · rw [hdecoder', hdecoder, h.heard]
    simp [Hook.frame?]
  · rw [hevents', hevents, h.recorded]
    simp only [List.filterMap_append, List.append_nil]
    rfl

/-- **The handler has decided on a frame.** -/
theorem Serving.weigh {f : Frame}
    (h : Serving hooks [.frame f] decoded t.link t.events) (now : Nat)
    (rest : Bytes) (cue : Cue) :
    Serves t.link.state hooks (decoded ++ rest) cue
      (t.weigh now f rest cue) := by
  rw [weigh_eq]
  split
  · next hcomes =>
      exact Or.inl
        ⟨rfl, decoded, rfl, h.greeted hcomes.1 hcomes.2 now cue.verdict⟩
  · next hnothing =>
      obtain ⟨hweighed, hstate⟩ := h.weighed hnothing now cue.verdict
      rw [← hstate]
      exact hweighed.takeIn now cue rest

variable [Endpoint ε]

/-- **A tick begins**, and may end the link before it decodes anything. -/
theorem Serving.startTick (h : Serving hooks [] decoded t.link t.events)
    (config : LinkConfig) (cue : Cue) :
    Serves t.link.state hooks (decoded ++ t.intake config) cue
      (t.startTick config cue) := by
  obtain ⟨t', hsame, hcases⟩ := t.startTick_cases config cue
  have hstate := hsame.state
  have hnext : Serving hooks [] decoded t'.link t'.events := by
    rw [hsame.events]
    exact h.of_same hstate hsame.tracker hsame.decoder
  rcases hcases with ⟨hnone, exit, heq⟩ | heq
  · rw [heq, hnone, List.append_nil]
    exact Or.inr ⟨t', exit, rfl, hstate, hnext⟩
  · rw [heq, ← hstate]
    exact hnext.takeIn cue.now cue (t.intake config)

/-- **A link goes on** from where it waits, and its handler is called at most
once for it. -/
theorem Serving.resume {stand : Stand}
    (h : Serving hooks stand.asked decoded t.link t.events)
    (hunder : stand.isUnderWay = true) (config : LinkConfig) (cue : Cue) :
    Serves t.link.state hooks
      (decoded ++ stand.undecoded ++
        if stand = .waiting then t.intake config else []) cue
      (t.resume config cue stand) := by
  -- a stand in which nothing is left to be decoded, for the next of which
  -- nothing is called
  have hidle (h : Serving hooks [] decoded t.link t.events) :
      Serves t.link.state hooks (decoded ++ [] ++ []) cue (t, .waiting) := by
    rw [List.append_nil, List.append_nil]
    exact Or.inl
      ⟨rfl, decoded, (List.append_nil _).symm, (List.append_nil hooks).symm ▸ h⟩
  cases stand with
  | connected => cases hunder
  | beginning => exact hidle h
  | waiting =>
      have hstarts := h.startTick config cue
      rw [if_pos rfl]
      exact (List.append_nil decoded).symm ▸ hstarts
  | judging now f rest =>
      have hgoes := Serving.weigh h now rest cue
      exact (List.append_nil (decoded ++ rest)).symm ▸ hgoes
  | greeting now rest =>
      have hgoes := Serving.takeIn h now cue rest
      exact (List.append_nil (decoded ++ rest)).symm ▸ hgoes
  | parting exit =>
      cases exit with
      | none => exact hidle h
      | some exit =>
          have hserving : Serving hooks [] decoded t.link t.events := h
          refine Or.inr ⟨t, exit, rfl, rfl, ?_⟩
          simpa [Stand.undecoded] using hserving
  | ending => cases hunder
  | finished => cases hunder

/-! ## Links where they wait -/

/-- A link that nobody has run yet. -/
structure Fresh (l : Link) (events : List Event) : Prop where
  events : events = []
  decoder : l.decoder = {}
  absent : l.tracker.active = false
  state : l.state = .starting

/-- **A link that has ended** and has told its handler so. -/
structure Ended (x : Minutes) (l : Link) (events : List Event) : Prop where
  terminated : l.state = .terminated
  called : ∃ there before, x.hooks = before ++ [.ended] ∧
    Hook.Called there before
  balanced : ∃ state, x.atExit = some state ∧
    x.hooks.count .activated = x.hooks.count .idled +
      if state = .active then 1 else 0
  heard : hearing x.received = (l.decoder, x.hooks.filterMap Hook.frame?)
  recorded : x.hooks = events.filterMap Event.hook?

/-- **A link that was dropped** before it had ended. -/
structure CutOff (x : Minutes) (l : Link) (events : List Event) : Prop where
  terminated : l.state = .terminated
  called : x.hooks = [] ∨ ∃ there, Hook.Called there x.hooks
  heard : ∃ decoded left, x.received = decoded ++ left ∧
    hearing decoded = (l.decoder, x.hooks.filterMap Hook.frame?)
  recorded : ∃ asked, x.hooks = events.filterMap Event.hook? ++ asked ∧
    asked.length ≤ 1

/-- **What the minutes say of a link where it waits.** -/
def Attends (dropped : Prop) (x : Minutes) (l : Link) (events : List Event) :
    Stand → Prop
  | .connected => x = {} ∧ Fresh l events
  | .ending => Ended x l events
  | .finished => Ended x l events ∨ dropped ∧ CutOff x l events
  | stand => ∃ decoded, x.received = decoded ++ stand.undecoded ∧
      Serving x.hooks stand.asked decoded l events

variable {x : Minutes} {dropped : Prop} {stand : Stand}

omit [Endpoint ε] in
/-- A link that has ended did so by itself, or was dropped. -/
theorem Attends.fate (h : Attends dropped x l events stand)
    (hpast : stand.isPast = true) :
    Ended x l events ∨ dropped ∧ CutOff x l events := by
  cases stand with
  | ending => exact Or.inl h
  | finished => exact h
  | _ => cases hpast

omit [Endpoint ε] in
/-- At every wait of a link under way there is the same to say of it. -/
theorem attends_of_isUnderWay (h : stand.isUnderWay = true) :
    Attends dropped x l events stand ↔ ∃ decoded,
    x.received = decoded ++ stand.undecoded ∧
      Serving x.hooks stand.asked decoded l events := by
  cases stand with
  | connected => cases h
  | ending => cases h
  | finished => cases h
  | _ => exact Iff.rfl

section

omit [Endpoint ε]

/-- **A link begins**, and tells its handler so. -/
theorem Fresh.begin (h : Fresh t.link t.events) :
    Serving [.begun] [] [] t.begin.link t.begin.events := by
  obtain ⟨hlink, _, hbegun⟩ := t.begin_same
  rw [hlink, hbegun, h.events]
  refine ⟨?_, ?_, ?_, ?_, rfl⟩
  · rw [h.state]
    exact LinkState.noConfusion
  · rw [h.absent, h.state]
    exact ⟨nofun, nofun⟩
  · rw [h.absent]
    exact .begun
  · rw [h.decoder]
    rfl

/-- **The end** of a link that is given up. -/
theorem Serving.leave (h : Serving hooks [] received t.link t.events)
    (exit : Exit) (cue : Cue) :
    Ended ⟨received, hooks ++ [.ended], some t.link.state⟩
      (t.leave exit cue).1.link
      (t.leave exit cue).1.events := by
  have hlink :
      (t.leave exit cue).1.link = { t.link with state := .terminated } := by
    rw [link_leave, link_release]
  refine ⟨by rw [hlink], ⟨_, hooks, rfl, h.called⟩, ⟨_, rfl, ?_⟩, ?_, ?_⟩
  · simpa using h.balance
  · rw [hlink, h.heard]
    simp [Hook.frame?]
  · rw [hooks_leave, h.recorded, List.append_nil]

/-- A stretch of work that ends as it should brings the link to its next
wait. -/
theorem Turn.Serves.attends {result : Turn ε × Stand}
    (h : Serves state hooks received cue result) (atExit : Option LinkState) :
    Attends dropped
      ⟨received, hooks ++ result.2.hook?.toList,
        if result.2 = .ending then some state else atExit⟩
      result.1.link result.1.events result.2 := by
  rcases h with ⟨hunder, hserving⟩ | ⟨t, exit, rfl, rfl, hserving⟩
  · exact (attends_of_isUnderWay hunder).mpr hserving
  · exact hserving.leave exit cue

/-- A link is dropped that nobody has run yet. -/
theorem Fresh.release (h : Fresh t.link t.events) :
    CutOff {} t.release.link t.release.events := by
  rw [link_release]
  refine ⟨rfl, Or.inl rfl, ⟨[], [], rfl, ?_⟩, [], ?_, Nat.zero_le 1⟩
  · rw [h.decoder]
    rfl
  · rw [hooks_release, h.events]
    rfl

/-- A link is dropped that has not ended.  What it has not decoded yet is
lost. -/
theorem Serving.release
    (h : Serving x.hooks stand.asked decoded t.link t.events)
    (hreceived : x.received = decoded ++ stand.undecoded) :
    CutOff x t.release.link t.release.events := by
  rw [link_release]
  refine ⟨rfl, Or.inr ⟨_, h.called⟩, ⟨decoded, _, hreceived, h.heard⟩,
    stand.asked, ?_, stand.length_asked_le⟩
  rw [hooks_release]
  exact h.recorded

/-- **A link is dropped**, wherever it waits. -/
theorem Attends.drop (h : Attends dropped x t.link t.events stand)
    {dropped' : Prop} (hdropped : dropped') :
    Attends dropped' x t.release.link t.release.events .finished := by
  rcases stand.cases with rfl | hunder | hpast
  · obtain ⟨rfl, hfresh⟩ := h
    exact Or.inr ⟨hdropped, hfresh.release⟩
  · obtain ⟨decoded, hreceived, hserving⟩ := (attends_of_isUnderWay hunder).mp h
    exact Or.inr ⟨hdropped, hserving.release hreceived⟩
  · -- a link that has ended gives nothing back
    have hfate : Ended x t.link t.events ∨ dropped ∧ CutOff x t.link t.events :=
      h.fate hpast
    have hover : t.link.state = .terminated :=
      hfate.elim Ended.terminated fun hcut => hcut.2.terminated
    rw [release_of_past hover]
    exact hfate.imp_right fun hcut => ⟨hdropped, hcut.2⟩

/-- A weaker reason to have been dropped is as good. -/
theorem Attends.mono {dropped' : Prop} (h : Attends dropped x l events stand)
    (hdropped : dropped → dropped') : Attends dropped' x l events stand := by
  cases stand with
  | finished => exact h.imp_right (And.imp_left hdropped)
  | _ => exact h

end

/-- Once a link has ended there is nothing more for the minutes. -/
theorem Turn.minute_of_isPast (h : stand.isPast = true) (config : LinkConfig)
    (cue : Cue) (t : Turn ε) (x : Minutes) :
    t.minute config cue stand x = x := by
  have hstand : stand ≠ .waiting := by
    rintro rfl
    cases h
  unfold Turn.minute
  rw [resume_past config cue t h, if_neg hstand, if_neg nofun]
  simp [Stand.hook?]

/-- **A stretch of work** is in the minutes. -/
theorem Attends.resume (h : Attends dropped x t.link t.events stand)
    (config : LinkConfig) (cue : Cue) :
    Attends dropped (t.minute config cue stand x)
      (t.resume config cue stand).1.link
      (t.resume config cue stand).1.events (t.resume config cue stand).2 := by
  rcases stand.cases with rfl | hunder | hpast
  · obtain ⟨rfl, hfresh⟩ := h
    exact ⟨[], rfl, hfresh.begin⟩
  · obtain ⟨decoded, hreceived, hserving⟩ := (attends_of_isUnderWay hunder).mp h
    unfold Turn.minute
    rw [hreceived]
    exact (hserving.resume hunder config cue).attends x.atExit
  · rw [minute_of_isPast hpast, resume_past config cue t hpast]
    cases stand with
    | ending => exact Or.inl h
    | finished => exact h
    | _ => cases hpast

/-- The end of a link is decided in the state in which it was when it went
on. -/
theorem Attends.leaves (h : Attends dropped x t.link t.events stand)
    {config : LinkConfig} {cue : Cue}
    (hends : (t.resume config cue stand).2 = .ending) :
    ∃ (t' : Turn ε) (exit : Exit),
      t.resume config cue stand = t'.leave exit cue ∧
      t'.link.state = t.link.state := by
  rcases stand.cases with rfl | hunder | hpast
  · cases hends
  · obtain ⟨decoded, _, hserving⟩ := (attends_of_isUnderWay hunder).mp h
    rcases hserving.resume hunder config cue with
        ⟨hstill, _⟩ | ⟨t', exit, hleft, hstate, _⟩
    · rw [hends] at hstill
      cases hstill
    · exact ⟨t', exit, hleft, hstate⟩
  · rw [resume_past config cue t hpast] at hends
    cases hends

/-! ## Links on their way -/

namespace Traffic

variable {w : Traffic ε} {k : Nat} {c c' : Course ε} {a : Act ε}

/-- Minutes are taken only when the link goes on. -/
theorem minute_of_not_resume (hresume : ∀ cue, a ≠ .resume k cue) :
    w.minute k x a = x := by
  cases a with
  | resume j cue =>
      have hjk : j ≠ k := by
        rintro rfl
        exact hresume cue rfl
      simp only [minute, if_neg hjk]
      split <;> rfl
  | _ => rfl

/-- **One act** is in the minutes. -/
theorem attends_act (hk : w.courses[k]? = some c)
    (h : Attends dropped x c.link c.events c.stand) (a : Act ε) :
    ∃ c', (w.act a).courses[k]? = some c' ∧
      Attends (dropped ∨ a = .drop k) (w.minute k x a) c'.link c'.events
        c'.stand := by
  by_cases hresume : ∃ cue, a = .resume k cue
  · obtain ⟨cue, rfl⟩ := hresume
    have hminute : w.minute k x (.resume k cue) =
        (c.turn w.board).minute c.config cue c.stand x := by
      simp only [minute, hk, if_true]
    rw [act_resume hk, course_commit hk, hminute]
    exact ⟨_, rfl,
      (Attends.resume (t := c.turn w.board) h c.config cue).mono Or.inl⟩
  · have hnot : ∀ cue, a ≠ .resume k cue := fun cue hcue => hresume ⟨cue, hcue⟩
    rw [minute_of_not_resume hnot]
    rcases course_act hk a with hsame | ⟨t, stand, hwork, _, hwork'⟩
    · exact ⟨c, hsame, h.mono Or.inl⟩
    · refine ⟨_, hwork', ?_⟩
      cases hwork with
      | resume cue => exact absurd rfl (hnot cue)
      | drop => exact Attends.drop (t := c.turn w.board) h (Or.inr rfl)
      | far f => exact h.mono Or.inl

/-- **Any acts in any order** are. -/
theorem attends_run (hk : w.courses[k]? = some c)
    (h : Attends dropped x c.link c.events c.stand) (acts : List (Act ε)) :
    ∃ c', (w.run acts).courses[k]? = some c' ∧
      Attends (dropped ∨ .drop k ∈ acts) (minutesOver k w x acts) c'.link
        c'.events c'.stand := by
  induction acts generalizing w c x dropped with
  | nil => exact ⟨c, hk, h.mono Or.inl⟩
  | cons a acts ih =>
      obtain ⟨c₁, hk₁, h₁⟩ := attends_act hk h a
      obtain ⟨c', hk', h'⟩ := ih hk₁ h₁
      refine ⟨c', hk', h'.mono ?_⟩
      rw [List.mem_cons, or_assoc, eq_comm]
      exact id

end Traffic

/-! ## Heartbeats that are refused -/

namespace Turn

omit [Endpoint ε]

/-- While the deadline has not passed, decoding does not change what is known of
the other side. -/
theorem takeIn_of_le {now : Nat} (h : now ≤ t.link.tracker.deadline) (cue : Cue)
    (bytes : Bytes) :
    (t.takeIn now cue bytes).1.link.tracker = t.link.tracker ∧
      (t.takeIn now cue bytes).1.link.state = t.link.state := by
  induction bytes generalizing t with
  | nil =>
      have hintime : t.link.tracker.poll now = (t.link.tracker, .unchanged) :=
        if_pos h
      have hstays : t.takeIn now cue [] = t.endTick now cue := rfl
      rw [hstays, endTick_of_not_deactivated
        (by rw [hintime]; exact Transition.noConfusion) cue, if_neg fun hlate =>
          absurd h (Nat.not_le.mpr hlate.2)]
      exact ⟨rfl, rfl⟩
  | cons b rest ih =>
      unfold takeIn
      rw [decode_eq]
      cases (t.link.decoder.push b).2 with
      | none => exact ih (t := (t.decode b).1) h
      | some f => exact ⟨rfl, rfl⟩

/-- **A heartbeat counts whatever the handler decides on it**: the link is
active then, and the deadline is as far away as it can be. -/
theorem weighed_of_isHeartbeat {f : Frame} (hbeat : f.isHeartbeat = true)
    (hpresent : t.link.tracker.active = true ↔ t.link.state = .active)
    (now : Nat) (verdict : Except Refusal Unit) :
    (t.weighed now f verdict).link.tracker = (t.link.tracker.heartbeat now).1 ∧
      (t.weighed now f verdict).link.state = .active := by
  obtain ⟨htracker, hstate, _, _⟩ := judge_same f verdict t
  unfold weighed
  rw [if_pos hbeat, ← htracker]
  cases hactive : (t.judge f verdict).link.tracker.active with
  | true =>
      obtain ⟨htracker', hstate', _, _⟩ := beat_of_present hactive now
      exact ⟨htracker',
        hstate'.trans (hstate.trans (hpresent.mp (htracker ▸ hactive)))⟩
  | false =>
      obtain ⟨htracker', hstate', _, _⟩ := beat_of_absent hactive now
      exact ⟨htracker', hstate'⟩

end Turn

/-- What a link is after a heartbeat has been decided on. -/
structure Beaten (now : Nat) (rest : Bytes) (l : Link)
    (result : Turn ε × Stand) :
    Prop where
  active : result.1.link.state = .active
  deadline : result.1.link.tracker.deadline = now + l.tracker.timeout
  /-- If it was not active before, the handler is told next that it is. -/
  greeted : l.state ≠ .active → result.2 = .greeting now rest

omit [Endpoint ε] in
/-- After a heartbeat the other side is there, by the tracker and by the
calls. -/
theorem Serving.beaten {f : Frame}
    (h : Serving hooks asked decoded t.link t.events)
    (hbeat : f.isHeartbeat = true) (now : Nat) (rest : Bytes) (cue : Cue) :
    Beaten now rest t.link (t.weigh now f rest cue) := by
  obtain ⟨htracker, hstate⟩ :=
    weighed_of_isHeartbeat hbeat h.present now cue.verdict
  have hdeadline : (t.weighed now f cue.verdict).link.tracker.deadline =
      now + t.link.tracker.timeout := by
    rw [htracker, Tracker.deadline_heartbeat]
  rw [weigh_eq]
  split
  · exact ⟨hstate, hdeadline, fun _ => rfl⟩
  · next hnothing =>
      have hthere : t.link.tracker.active = true := by
        simpa [hbeat] using hnothing
      obtain ⟨htracker', hstate'⟩ :=
        takeIn_of_le (t := t.weighed now f cue.verdict)
        (hdeadline ▸ Nat.le_add_right now _) cue rest
      exact ⟨hstate'.trans hstate, by rw [htracker', hdeadline],
        fun hidle => absurd (h.present.mp hthere) hidle⟩

/-! ## What a handler is told -/

namespace Course

variable {w : Traffic ε} {c : Course ε}

omit [Endpoint ε]

/-- A link that has ended is not active. -/
theorem not_isActive_of_terminated (h : c.link.state = .terminated) :
    c.isActive = false := by
  simp [isActive, h]

/-- A link that has not ended has told its handler the beginning of what it will
have told. -/
theorem tells_of_serving
    (h : Serving x.hooks c.stand.asked decoded c.link c.events)
    (hreceived : x.received = decoded ++ c.stand.undecoded)
    (hdropped : ¬dropped)
    (hcount : w.active.links = w.courses.countP isActive) :
    c.Tells dropped x w where
  inTurn :=
    ⟨[.ended], h.called.inTurn, fun hended => absurd hended h.called.not_ended⟩
  told := ⟨fun hover => absurd hover h.live,
    fun hended => hended.elim (absurd · h.called.not_ended) (absurd · hdropped)⟩
  heard := ⟨decoded, _, hreceived, h.heard, fun _ => rfl⟩
  recorded := ⟨_, h.recorded, c.stand.length_asked_le, fun _ => rfl⟩
  released := fun hended => absurd hended h.called.not_ended
  counted := hcount
  balanced := fun hended => absurd hended h.called.not_ended
  balance := fun _ => by simpa [isActive] using h.balance

/-- A link that nobody has run yet has told its handler nothing. -/
theorem tells_of_connected (h : Attends dropped x c.link c.events .connected)
    (hstand : c.stand = .connected) (hdropped : ¬dropped)
    (hcount : w.active.links = w.courses.countP isActive) :
    c.Tells dropped x w := by
  obtain ⟨rfl, hfresh⟩ := h
  have hlive : c.link.state ≠ .terminated := by
    rw [hfresh.state]
    exact LinkState.noConfusion
  exact {
    inTurn := ⟨[.begun, .ended], Hook.Called.begun.inTurn, nofun⟩
    told := ⟨fun hover => absurd hover hlive,
      fun hended => hended.elim nofun (absurd · hdropped)⟩
    heard :=
    ⟨[], [], rfl, by rw [hfresh.decoder]; rfl, fun _ => by rw [hstand]; rfl⟩
    recorded := ⟨[], by rw [hfresh.events]; rfl, Nat.zero_le 1, fun _ => by
        rw [hstand]; rfl⟩
    released := nofun
    counted := hcount
    balanced := nofun
    balance := fun _ => by simp [isActive, hfresh.state] }

/-- A link that has ended has told its handler everything. -/
theorem tells_of_ended (h : Ended x c.link c.events)
    (hstand : c.stand.isPast = true)
    (hlost : w.downlink.pool.holds c.link.claim = false)
    (hcount : w.active.links = w.courses.countP isActive) :
    c.Tells dropped x w := by
  obtain ⟨there, before, hhooks, hcalled⟩ := h.called
  have hmem : .ended ∈ x.hooks := by simp [hhooks]
  obtain ⟨hasked, hundecoded⟩ := Stand.asked_of_isPast hstand
  exact {
    inTurn :=
    ⟨[], by rw [List.append_nil, hhooks]; exact hcalled.inTurn, fun _ => rfl⟩
    told := ⟨fun _ => Or.inl hmem, fun _ => h.terminated⟩
    heard := ⟨x.received, [], (List.append_nil _).symm, h.heard, fun _ =>
        hundecoded.symm⟩
    recorded := ⟨[], h.recorded.trans (List.append_nil _).symm, Nat.zero_le 1,
      fun _ => hasked.symm⟩
    released := fun _ => ⟨hlost, not_isActive_of_terminated h.terminated⟩
    counted := hcount
    balanced := fun _ => h.balanced
    balance := fun hlive => absurd h.terminated hlive }

/-- A link that was dropped has told its handler the beginning of what it would
have told. -/
theorem tells_of_cutOff (h : CutOff x c.link c.events) (hdropped : dropped)
    (hcount : w.active.links = w.courses.countP isActive) :
    c.Tells dropped x w := by
  obtain ⟨decoded, left, hreceived, hheard⟩ := h.heard
  obtain ⟨asked, hrecorded, hasked⟩ := h.recorded
  have hnot : .ended ∉ x.hooks := by
    rcases h.called with hnone | ⟨there, hcalled⟩
    · simp [hnone]
    · exact hcalled.not_ended
  have hbegun : ∃ more, Hook.InTurn (x.hooks ++ more) := by
    rcases h.called with hnone | ⟨there, hcalled⟩
    · exact ⟨[.begun, .ended], by rw [hnone]; exact Hook.Called.begun.inTurn⟩
    · exact ⟨[.ended], hcalled.inTurn⟩
  obtain ⟨more, hmore⟩ := hbegun
  exact {
    inTurn := ⟨more, hmore, fun hended => absurd hended hnot⟩
    told := ⟨fun _ => Or.inr hdropped, fun _ => h.terminated⟩
    heard := ⟨decoded, left, hreceived, hheard,
      fun hwhole => hwhole.elim (absurd · hnot) (absurd hdropped)⟩
    recorded := ⟨asked, hrecorded, hasked,
      fun hwhole => hwhole.elim (absurd · hnot) (absurd hdropped)⟩
    released := fun hended => absurd hended hnot
    counted := hcount
    balanced := fun hended => absurd hended hnot
    balance := fun hlive => absurd h.terminated hlive }

end Course

omit [Endpoint ε] in
/-- **What the minutes say** of a link, wherever it waits. -/
theorem Attends.tells {w : Traffic ε} {c : Course ε}
    (h : Attends dropped x c.link c.events c.stand)
    (hdropped : dropped → c.link.state = .terminated)
    (hlost : c.link.state = .terminated →
      w.downlink.pool.holds c.link.claim = false)
    (hcount : w.active.links = w.courses.countP Course.isActive) :
    c.Tells dropped x w := by
  rcases c.stand.cases with hnew | hunder | hpast
  · rw [hnew] at h
    have hlive : c.link.state ≠ .terminated := by
      rw [h.2.state]
      exact LinkState.noConfusion
    exact Course.tells_of_connected h hnew (mt hdropped hlive) hcount
  · obtain ⟨decoded, hreceived, hserving⟩ := (attends_of_isUnderWay hunder).mp h
    exact Course.tells_of_serving hserving hreceived
      (mt hdropped hserving.live) hcount
  · rcases h.fate hpast with h | ⟨hdrop, h⟩
    · exact Course.tells_of_ended h hpast (hlost h.terminated) hcount
    · exact Course.tells_of_cutOff h hdrop hcount

/-- **A handler is called in turn.**  Take a link that is connected at some time
under any policy, and let anything happen then in any order.  By its minutes the
handler has been told the beginning of a whole life, and all of it if it has
been told that the link has ended (`Hook.InTurn`); that is so once the link has
ended, if it was not dropped.  It has been called once for every frame, when it
is told of the end everything has been given back, and the other side has come
once more than it has gone if the link was active when its end was decided
(`Course.Tells`).  That is the state in which it goes on for the last time.  And
while the handler decides on a heartbeat, it makes no difference what it
decides: the link is active then. -/
theorem handler_called_in_turn {ε : Type} [Endpoint ε]
    {channels queueCapacity : Nat} {d : Downlink}
    (hcreate : Pool.create? channels queueCapacity = some d.pool)
    (before after : List (Act ε)) (name : String) (policy : Policy)
    (config : LinkConfig) (now : Nat) (endpoint : ε) {c₀ : Course ε}
    (hc₀ :
      (((Traffic.start d).run before).act
        (.connect name policy config now endpoint)).courses[
          ((Traffic.start (ε := ε) d).run before).courses.length]? = some c₀) :
    let k := ((Traffic.start (ε := ε) d).run before).courses.length
    let w₀ :=
      ((Traffic.start d).run before).act
        (.connect name policy config now endpoint)
    let w := w₀.run after
    ∃ c, w.courses[k]? = some c ∧ c.link.claim = c₀.link.claim ∧
      c.Tells (.drop k ∈ after) (w₀.minutesOver k {} after) w ∧
      ∀ cue, let result := (c.turn w.board).resume c.config cue c.stand
        (result.2 = .ending → ∃ (t : Turn ε) (exit : Exit),
          result = t.leave exit cue ∧
          t.link.state = c.link.state) ∧
        ∀ now f rest, c.stand = .judging now f rest → f.isHeartbeat = true →
          Beaten now rest c.link result := by
  intro k w₀ w
  have hsound : w₀.Sound := ((Traffic.sound_start hcreate).run before).act _
  have hcounted : w₀.Counted := ((Traffic.counted_start d).run before).act _
  obtain ⟨pool, claim, _, rfl, _⟩ := Traffic.act_connect hc₀
  have hnew : Traffic.Overseen policy k False [] w₀
      { link :=
          .connect name claim (Endpoint.transport endpoint) policy config now
        config, endpoint } :=
    ⟨hsound, hcounted, hc₀, ⟨rfl, nofun, rfl, rfl, rfl, nofun⟩, nofun, nofun⟩
  obtain ⟨c, hbecomes, hover⟩ := hnew.run after
  have hattends : ∃ c', w.courses[k]? = some c' ∧
      Attends (False ∨ .drop k ∈ after) (w₀.minutesOver k {} after) c'.link
        c'.events c'.stand :=
    Traffic.attends_run hc₀ ⟨rfl, rfl, rfl, rfl, rfl⟩ after
  obtain ⟨c', hc', h⟩ := hattends
  obtain rfl : c = c' := Option.some.inj (hover.here.symm.trans hc')
  rw [false_or] at h
  refine ⟨c, hc', hbecomes.claim,
    h.tells (fun hdrop => hover.dropped (Or.inr hdrop)) hover.lost
      hover.counted.count, ?_⟩
  intro cue result
  refine ⟨Attends.leaves (t := c.turn w.board) h, ?_⟩
  intro now f rest hstand hbeat
  rw [hstand] at h
  obtain ⟨decoded, _, hserving⟩ := h
  have hbeaten :
      Beaten now rest c.link ((c.turn w.board).weigh now f rest cue) :=
    Serving.beaten (t := c.turn w.board) hserving hbeat now rest cue
  have hresult : result = (c.turn w.board).weigh now f rest cue := by
    unfold result
    rw [hstand]
    rfl
  rwa [hresult]

/-- A link whose handler refuses the heartbeat that makes it active, and which
cannot write then. -/
def refusing : List (Act Pipe) :=
  [going 0, going 0, beating, going 5,
    .resume 0 ⟨5, .error (.rejected "busy"), none⟩, going 5,
    .ask (.publish [7]), .far 0 fun p => { p with failWrites := true }, going 6]

/-- Its handler has been told a whole life, in which the other side came and did
not go. -/
theorem refusing_called_in_turn :
    ∃ c x, (fragile.run refusing).courses[0]? = some c ∧
      fragile.minutesOver 0 {} refusing = x ∧
      x.hooks.map Hook.presence? = [none, none, some true, none] ∧
      Hook.InTurn x.hooks ∧
      x.atExit = some .active ∧
      x.hooks.count .activated = x.hooks.count .idled + 1 ∧
      (hearing x.received).2 = x.hooks.filterMap Hook.frame? ∧
      (fragile.run refusing).downlink.pool.holds c.link.claim = false := by
  have hcreate : Pool.create? 1 4 = some (Downlink.single 4).pool := rfl
  have hconnected : fragile.courses[0]? = some _ := rfl
  have hpresence :
      (fragile.minutesOver 0 {} refusing).hooks.map Hook.presence? =
      [none, none, some true, none] := by decide +kernel
  have hended : .ended ∈ (fragile.minutesOver 0 {} refusing).hooks := by
    decide +kernel
  have hexit : (fragile.minutesOver 0 {} refusing).atExit = some .active := by
    decide +kernel
  have hstand : (fragile.run refusing).courses[0]?.map (·.stand) =
      some .ending := by
    decide +kernel
  obtain ⟨c, hc, _, htells, _⟩ :=
    handler_called_in_turn hcreate [] refusing "gcs"
    { exitOnError := true, exitOnIdle := true } { heartbeatTimeout := 10 } 0
      ({} : Pipe) hconnected
  have hrun : (fragile.run refusing).courses[0]? = some c := hc
  have hminutes : ∃ dropped, c.Tells dropped (fragile.minutesOver 0 {} refusing)
      (fragile.run refusing) := ⟨_, htells⟩
  obtain ⟨dropped, htells⟩ := hminutes
  rw [hrun, Option.map_some, Option.some.injEq] at hstand
  obtain ⟨more, hmore, hnone⟩ := htells.inTurn
  obtain rfl := hnone hended
  obtain ⟨state, hstate, hbalanced⟩ := htells.balanced hended
  obtain rfl : LinkState.active = state :=
    Option.some.inj (hexit.symm.trans hstate)
  obtain ⟨decoded, left, hreceived, hheard, hleft⟩ := htells.heard
  obtain rfl : left = [] := by
    rw [hleft (Or.inl hended), hstand]
    rfl
  rw [List.append_nil] at hmore hreceived
  rw [if_pos rfl] at hbalanced
  refine ⟨c, _, hrun, rfl, hpresence, hmore, hexit, hbalanced, ?_,
    (htells.released hended).1⟩
  rw [hreceived, hheard]

end GroundLink
