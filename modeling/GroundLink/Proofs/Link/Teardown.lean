import GroundLink.Proofs.Link.Eviction
import GroundLink.Proofs.Link.Heartbeats
import GroundLink.Proofs.Link.Logbook
import GroundLink.Proofs.Link.Neighbours
import GroundLink.Proofs.Link.Tenancy

/-!
# How links end

Whatever the reason for which a link ends, and wherever it is dropped, what
comes with the end is the same, since there is one way to give back
(`Traffic.given_back`): the channel is freed if it still is the link's and left
alone otherwise, the link leaves the count if it was in it, and a link that ends
by itself tells its handler after that.

`Traffic.endsOnce_act` says so for one act.  `Traffic.Overseen` puts it beside
what the logbook says (`Logs`), and `Traffic.Overseen.run` carries both through
any order of acts.
-/

namespace GroundLink

variable {ε : Type} {t : Turn ε}

/-! ## Ticks come to their end -/

namespace Turn

/-- A tick that ends leaves one wait ahead at most, for the handler. -/
theorem ahead_endTick (now : Nat) (cue : Cue) (t : Turn ε) :
    (t.endTick now cue).2.ahead ≤ 1 := by
  by_cases hgone : (t.link.tracker.poll now).2 = .deactivated
  · rw [(endTick_of_deactivated hgone cue).1]
    exact Nat.le_refl 1
  · rw [endTick_of_not_deactivated hgone cue]
    split <;> exact Nat.zero_le 1

/-- Every byte may end a frame, and every frame costs two waits at most. -/
theorem ahead_takeIn (now : Nat) (cue : Cue) (bytes : Bytes) (t : Turn ε) :
    (t.takeIn now cue bytes).2.ahead ≤ 2 * bytes.length + 1 := by
  induction bytes generalizing t with
  | nil => exact t.ahead_endTick now cue
  | cons b rest ih =>
      rw [List.length_cons]
      unfold takeIn
      rcases t.decode b with ⟨t', _ | f⟩
      · have hrest := ih t'
        dsimp only
        omega
      · simp only [Stand.ahead]
        omega

/-- **A tick comes to its end**: the link goes on a bounded number of times. -/
theorem ahead_resume [Endpoint ε] (config : LinkConfig) (cue : Cue)
    {stand : Stand} (t : Turn ε) (h : stand.ahead ≠ 0) :
    (t.resume config cue stand).2.ahead < stand.ahead := by
  cases stand with
  | judging now f rest =>
      have hresume : t.resume config cue (.judging now f rest) =
          t.weigh now f rest cue := rfl
      have hahead : (Stand.judging now f rest).ahead = 2 * rest.length + 3 :=
        rfl
      rw [hresume, hahead]
      rcases weigh_cases now f rest cue t with heq | heq
      · have htaken := (t.weighed now f cue.verdict).ahead_takeIn now cue rest
        rw [heq]
        omega
      · rw [heq]
        exact Nat.lt_succ_self _
  | greeting now rest =>
      have htaken := t.ahead_takeIn now cue rest
      exact Nat.lt_succ_of_le htaken
  | parting exit => cases exit <;> exact Nat.zero_lt_one
  | _ => exact absurd rfl h

end Turn

/-! ## Giving back -/

/-- Channel `i` is free, marked so, and nothing is left on it. -/
structure Pool.Vacant (p : Pool) (i : Nat) : Prop where
  mark : p.taken[i]? = some false
  slot : ∃ s, p.slots[i]? = some s ∧ s.occupied = false ∧ s.Clean

/-- A channel that has been given back is vacant. -/
theorem Pool.Frees.vacant {p p' : Pool} {i : Nat} (h : p.Frees i p') :
    p'.Vacant i := by
  obtain ⟨s, hs, _⟩ := Pool.isOccupied_eq_true h.occupied
  obtain ⟨queue, hempty, hs'⟩ := h.slot s hs
  exact ⟨h.mark, _, hs', rfl, rfl, hempty, rfl⟩

/-- The end of a link that has its channel frees it. -/
theorem Turn.vacant_release (live : t.link.state ≠ .terminated)
    (hsound : t.board.pool.Sound)
    (held : t.board.pool.holds t.link.claim = true) :
    t.release.board.pool.Vacant t.link.channel := by
  rw [pool_release live]
  refine (hsound.frees ?_).vacant
  rw [Pool.isFreeable_claim, held]

/-- **The end of link `k`** by one act: everything is given back, and nothing
that is not the link's.  A link that is dropped says no more than that it does
not count as active; a link that ends by itself tells its handler after that. -/
structure Teardown [Endpoint ε] (k : Nat) (w : Traffic ε) (a : Act ε)
    (c c' : Course ε) :
    Prop where
  released : (w.act a).downlink.pool.holds c.link.claim = false
  freed : w.downlink.pool.holds c.link.claim = true →
    (w.act a).downlink.pool.Vacant c.link.channel
  spared : w.downlink.pool.holds c.link.claim = false →
    (w.act a).downlink = w.downlink
  others : ∀ i, i ≠ c.link.channel →
    (w.act a).downlink.pool.slots[i]? = w.downlink.pool.slots[i]?
  count : (w.act a).active.links + (if c.isActive then 1 else 0) =
    w.active.links
  manner : a = .drop k ∧ c'.stand = .finished ∧
      c'.events = c.events ++ (if c.isActive then [.lowered] else []) ∨
    (∃ cue, a = .resume k cue) ∧ c'.stand = .ending ∧ ∃ before report words,
      c'.events = before ++ .terminated report :: (words ++ [.ended]) ∧
        ∀ e ∈ words, e.isShift = false

/-- Whether the act is the link's own: it goes on or is dropped. -/
def Act.IsOf (k : Nat) (a : Act ε) : Prop :=
  a = .drop k ∨ ∃ cue, a = .resume k cue

/-- What one act is to link `k`, which may end by it. -/
structure EndsOnce [Endpoint ε] (k : Nat) (w : Traffic ε) (a : Act ε)
    (c c' : Course ε) :
    Prop where
  teardown : c.link.state ≠ .terminated → c'.link.state = .terminated →
    Teardown k w a c c'
  /-- Once it has ended, nothing comes of it any more. -/
  done : c.link.state = .terminated → c'.link = c.link ∧ c'.events = c.events ∧
    (a.IsOf k → (w.act a).downlink = w.downlink ∧ (w.act a).active = w.active)
  /-- It changes the count by its own part in it, at its end and before. -/
  count : a.IsOf k → (w.act a).active.links + (if c.isActive then 1 else 0) =
    w.active.links + if c'.isActive then 1 else 0
  /-- A tick does not last forever. -/
  progress : ∀ cue, a = .resume k cue → c.stand.ahead ≠ 0 →
    c'.stand.ahead < c.stand.ahead

namespace Traffic

variable [Endpoint ε] {w : Traffic ε} {k : Nat} {c c' : Course ε} {a : Act ε}

/-- Whatever a link has done before, its end gives back what it has. -/
theorem given_back (chunk : Nat) {t : Turn ε} (hsound : w.downlink.pool.Sound)
    (hlive : c.link.state ≠ .terminated)
    (hmoves : Turn.Moves chunk (c.turn w.board) t) :
    t.release.board.pool.holds c.link.claim = false ∧
      (w.downlink.pool.holds c.link.claim = true →
        t.release.board.pool.Vacant c.link.channel) := by
  obtain ⟨hlive', hclaim, hsound'⟩ := hmoves.keep
    (P := fun a => a.link.state ≠ .terminated ∧ a.link.claim = c.link.claim ∧
      a.board.pool.Sound)
    (fun hmove h =>
      ⟨hmove.live h.1, hmove.since.claim.trans h.2.1, hmove.since.sound h.2.2⟩)
    ⟨hlive, rfl, hsound⟩
  refine ⟨?_, ?_⟩
  · have hreleased := Turn.holds_release hlive'
    rwa [Turn.link_release, hclaim] at hreleased
  · intro held
    have held' : t.board.pool.holds t.link.claim = true := by
      rw [hclaim, hmoves.holds]
      exact held
    have hvacant := Turn.vacant_release hlive' hsound' held'
    rwa [Link.channel, hclaim] at hvacant

/-- What a link does changes the count by what becomes of its own part in it. -/
theorem Counted.count_work (h : w.Counted) (hk : w.courses[k]? = some c)
    {t : Turn ε} {stand : Stand} (hwork : Work k c w.board a t stand) :
    t.board.active.links + (if c.isActive then 1 else 0) =
      w.active.links + if (c.after t stand).isActive then 1 else 0 := by
  obtain ⟨_, hcount⟩ := h.work hk hwork
  have hafter := (c.after t stand).weight_turn t.board
  have hsame : ((c.after t stand).turn t.board).weight = t.weight := rfl
  unfold Turn.CountsTo at hcount
  rw [← hsame, hafter, c.weight_turn] at hcount
  exact hcount

/-- The end takes a link out of the count if it was in it. -/
theorem Counted.count_ended (h : w.Counted) (hk : w.courses[k]? = some c)
    {t : Turn ε} {stand : Stand} (hwork : Work k c w.board a t stand)
    (hover : t.link.state = .terminated) :
    t.board.active.links + (if c.isActive then 1 else 0) = w.active.links := by
  have hcount := h.count_work hk hwork
  have hafter : (c.after t stand).isActive = false := by
    simp [Course.isActive, Course.after, hover]
  rw [hafter] at hcount
  exact hcount

/-- **A link that ends by itself.** -/
theorem teardown_resume (hsound : w.Sound) (hcounted : w.Counted)
    (hk : w.courses[k]? = some c) (hlive : c.link.state ≠ .terminated)
    (cue : Cue)
    (hover : ((c.turn w.board).resume c.config cue c.stand).1.link.state =
      .terminated) :
    Teardown k w (.resume k cue) c
      (c.after ((c.turn w.board).resume c.config cue c.stand).1
        ((c.turn w.board).resume c.config cue c.stand).2) := by
  have hact := act_resume hk cue
  rcases c.stand.cases with hconnected | hunder | hended
  · -- to begin is not to end
    rw [hconnected] at hover
    have hsame := congrArg Link.state (c.turn w.board).begin_same.1
    exact absurd (hsame.symm.trans hover) hlive
  · have hbegun : c.stand ≠ .connected := by
      intro hconnected
      rw [hconnected] at hunder
      cases hunder
    rcases Turn.resume_cases c.config cue (c.turn w.board) hunder with
      ⟨hmoves, _⟩ | ⟨t, exit, hmoves, hleave⟩
    · have hstill := hmoves.keep (P := fun a => a.link.state ≠ .terminated)
        (fun hmove => hmove.live) hlive
      exact absurd hover hstill
    · obtain ⟨hreleased, hfreed⟩ := given_back _ hsound.pool hlive hmoves
      have hpool : (w.act (.resume k cue)).downlink.pool =
          t.release.board.pool := by
        rw [hact, hleave]
        rfl
      refine ⟨hpool ▸ hreleased, hpool ▸ hfreed, fun hlost =>
          resume_lost hk hlost hbegun cue,
        ?_, ?_, ?_⟩
      · intro i hi
        rw [hact]
        exact Turn.resume_apart (t := c.turn w.board)
          (Ne.symm hi) c.config cue c.stand
      · rw [hact]
        exact hcounted.count_ended hk (.resume cue) hover
      · rw [hleave]
        refine Or.inr
          ⟨⟨cue, rfl⟩, rfl, _, _, _, Turn.events_leave exit cue t, ?_⟩
        exact fun e he => Turn.isShift_lastWords cue he
  · exact absurd
      ((hcounted.orderly c (List.mem_of_getElem? hk)).past.mp hended) hlive

/-- **A link that is dropped.** -/
theorem teardown_drop (hsound : w.Sound) (hcounted : w.Counted)
    (hk : w.courses[k]? = some c) (hlive : c.link.state ≠ .terminated) :
    Teardown k w (.drop k) c (c.after (c.turn w.board).release .finished) := by
  have hact := act_drop hk
  have hpool : (w.act (.drop k)).downlink.pool =
      (c.turn w.board).release.board.pool := by
    rw [hact]
    rfl
  obtain ⟨hreleased, hfreed⟩ :=
    given_back c.config.writeChunk hsound.pool hlive .refl
  refine ⟨hpool ▸ hreleased, hpool ▸ hfreed, drop_lost hk, ?_, ?_,
    Or.inl ⟨rfl, rfl, ?_⟩⟩
  · intro i hi
    rw [hpool]
    exact Turn.release_apart (t := c.turn w.board) (Ne.symm hi)
  · rw [hact]
    exact hcounted.count_ended hk .drop (by rw [Turn.link_release])
  · by_cases hactive : c.link.state = .active
    · have hcounts : c.isActive = true := by simp [Course.isActive, hactive]
      rw [hcounts]
      exact (Turn.release_of_active (t := c.turn w.board) hactive).2
    · have hcounts : c.isActive = false := by simp [Course.isActive, hactive]
      have hevents :=
        (Turn.release_of_not_active (t := c.turn w.board) hactive).2
      rw [hcounts]
      exact hevents.trans (List.append_nil _).symm

/-- **A link that has ended** gives nothing back, and tells nobody anything. -/
theorem done_work (hcounted : w.Counted) (hk : w.courses[k]? = some c)
    (hover : c.link.state = .terminated) {t : Turn ε} {stand : Stand}
    (hwork : Work k c w.board a t stand) :
    t.link = c.link ∧ t.events = c.events ∧ t.board = w.board := by
  have hpast := (hcounted.orderly c (List.mem_of_getElem? hk)).past.mpr hover
  cases hwork with
  | resume cue =>
      rw [Turn.resume_past c.config cue (c.turn w.board) hpast]
      exact ⟨rfl, rfl, rfl⟩
  | drop =>
      rw [Turn.release_of_past (t := c.turn w.board) hover]
      exact ⟨rfl, rfl, rfl⟩
  | far f => exact ⟨rfl, rfl, rfl⟩

/-- An act that is not the link's own does not change it, but for its
endpoint. -/
theorem endsOnce_of_same (hlink : c'.link = c.link)
    (hevents : c'.events = c.events) (hnot : ¬a.IsOf k) :
    EndsOnce k w a c c' where
  teardown := fun hlive hover => absurd (hlink ▸ hover) hlive
  done := fun _ => ⟨hlink, hevents, fun hown => absurd hown hnot⟩
  count := fun hown => absurd hown hnot
  progress := fun cue hcue => absurd (Or.inr ⟨cue, hcue⟩) hnot

/-- What link `k` does itself. -/
theorem endsOnce_of_work (hsound : w.Sound) (hcounted : w.Counted)
    (hk : w.courses[k]? = some c) {t : Turn ε} {stand : Stand}
    (hwork : Work k c w.board a t stand) (hact : w.act a = w.commit k c t stand)
    (hown : a.IsOf k) :
    EndsOnce k w a c (c.after t stand) := by
  refine ⟨fun hlive hover => ?_, fun hover => ?_, fun _ =>
      ?_, fun cue hcue hahead => ?_⟩
  · cases hwork with
    | resume cue => exact teardown_resume hsound hcounted hk hlive cue hover
    | drop => exact teardown_drop hsound hcounted hk hlive
    | far f => rcases hown with hcue | ⟨cue, hcue⟩ <;> cases hcue
  · obtain ⟨hlink, hevents, hboard⟩ := done_work hcounted hk hover hwork
    refine ⟨hlink, hevents, fun _ => ?_⟩
    rw [hact]
    simp only [commit, hboard]
    exact ⟨rfl, rfl⟩
  · rw [hact]
    exact hcounted.count_work hk hwork
  · subst hcue
    cases hwork with
    | resume cue => exact Turn.ahead_resume c.config cue (c.turn w.board) hahead

/-- **One act** ends link `k` as it should, if it does. -/
theorem endsOnce_act (hsound : w.Sound) (hcounted : w.Counted)
    (hk : w.courses[k]? = some c) (a : Act ε) :
    ∃ c', (w.act a).courses[k]? = some c' ∧ EndsOnce k w a c c' := by
  by_cases hown : a.IsOf k
  · have hwork : ∃ t stand, Work k c w.board a t stand ∧
        w.act a = w.commit k c t stand := by
      rcases hown with rfl | ⟨cue, rfl⟩
      · exact ⟨_, _, .drop, act_drop hk⟩
      · exact ⟨_, _, .resume cue, act_resume hk cue⟩
    obtain ⟨t, stand, hwork, hact⟩ := hwork
    refine ⟨c.after t stand, ?_,
      endsOnce_of_work hsound hcounted hk hwork hact hown⟩
    rw [hact, course_commit hk]
  · rcases course_act hk a with hsame | ⟨t, stand, hwork, _, hk'⟩
    · exact ⟨c, hsame, endsOnce_of_same rfl rfl hown⟩
    · refine ⟨c.after t stand, hk', ?_⟩
      cases hwork with
      | resume cue => exact absurd (Or.inr ⟨cue, rfl⟩) hown
      | drop => exact absurd (Or.inl rfl) hown
      | far f => exact endsOnce_of_same rfl rfl hown

/-! ## Links on their way -/

variable {policy : Policy} {dropped : Prop} {book : List Tick}

/-- The logbook is written when the link goes on. -/
theorem log_of_not_resume (hresume : ∀ cue, a ≠ .resume k cue) :
    w.log k book a = book := by
  cases a with
  | resume j cue =>
      have hjk : j ≠ k := by
        rintro rfl
        exact hresume cue rfl
      simp only [log, if_neg hjk]
      split <;> rfl
  | _ => rfl

/-- **One act** is in the logbook. -/
theorem logs_act (hk : w.courses[k]? = some c)
    (h : Logs policy c.config.heartbeatTimeout dropped book c.link c.events
      c.stand)
    (a : Act ε) (hk' : (w.act a).courses[k]? = some c') :
    Logs policy c.config.heartbeatTimeout (dropped ∨ a = .drop k)
      (w.log k book a) c'.link
      c'.events c'.stand := by
  by_cases hresume : ∃ cue, a = .resume k cue
  · obtain ⟨cue, rfl⟩ := hresume
    have hlog : w.log k book (.resume k cue) =
        (c.turn w.board).log c.config cue c.stand book := by
      simp only [log, hk, if_true]
    rw [act_resume hk, course_commit hk] at hk'
    obtain rfl := Option.some.inj hk'
    rw [hlog]
    exact (Logs.resume (t := c.turn w.board) h cue).mono Or.inl
  · have hnot : ∀ cue, a ≠ .resume k cue := fun cue hcue => hresume ⟨cue, hcue⟩
    rw [log_of_not_resume hnot]
    rcases course_act hk a with hsame | ⟨t, stand, hwork, _, hwork'⟩
    · obtain rfl := Option.some.inj (hsame.symm.trans hk')
      exact h.mono Or.inl
    · obtain rfl := Option.some.inj (hwork'.symm.trans hk')
      cases hwork with
      | resume cue => exact absurd rfl (hnot cue)
      | drop => exact Logs.drop (t := c.turn w.board) h (Or.inr rfl)
      | far f => exact h.mono Or.inl

/-- **What holds of link `k`** whatever happens, where `dropped` says whether
that has happened. -/
structure Overseen (policy : Policy) (k : Nat) (dropped : Prop)
    (book : List Tick) (w : Traffic ε) (c : Course ε) : Prop where
  sound : w.Sound
  counted : w.Counted
  here : w.courses[k]? = some c
  logs :
    Logs policy c.config.heartbeatTimeout dropped book c.link c.events c.stand
  dropped : dropped → c.link.state = .terminated
  lost : c.link.state = .terminated → w.downlink.pool.holds c.link.claim = false

/-- Whatever happens, the link is still overseen. -/
theorem Overseen.act (h : Overseen policy k dropped book w c) (a : Act ε) :
    ∃ c', c.Becomes c' ∧
      Overseen policy k (dropped ∨ a = .drop k) (w.log k book a)
        (w.act a) c' := by
  obtain ⟨c', hk', hends⟩ := endsOnce_act h.sound h.counted h.here a
  obtain ⟨c'', hk'', hbecomes⟩ := becomes_act h.here a
  obtain rfl := Option.some.inj (hk'.symm.trans hk'')
  have hlogs := logs_act h.here h.logs a hk'
  rw [← hbecomes.config] at hlogs
  refine ⟨c', hbecomes, h.sound.act a, h.counted.act a, hk', hlogs, ?_, ?_⟩
  · rintro (hbefore | rfl)
    · rw [(hends.done (h.dropped hbefore)).1]
      exact h.dropped hbefore
    · rw [act_drop h.here, course_commit h.here] at hk'
      obtain rfl := Option.some.inj hk'
      exact congrArg Link.state (Turn.link_release _)
  · intro hover
    rw [hbecomes.claim]
    by_cases hbefore : c.link.state = .terminated
    · exact h.sound.lost_run h.here (h.lost hbefore) [a]
    · exact (hends.teardown hbefore hover).released

/-- **Any acts in any order.** -/
theorem Overseen.run (h : Overseen policy k dropped book w c)
    (acts : List (Act ε)) :
    ∃ c', c.Becomes c' ∧
      Overseen policy k (dropped ∨ .drop k ∈ acts) (ticksOver k w book acts)
        (w.run acts) c' := by
  induction acts generalizing w c dropped book with
  | nil =>
      refine ⟨c, .refl c, { h with logs := h.logs.mono Or.inl, dropped := ?_ }⟩
      rintro (hdropped | hnow)
      · exact h.dropped hdropped
      · cases hnow
  | cons a acts ih =>
      obtain ⟨c₁, hbecomes₁, h₁⟩ := h.act a
      obtain ⟨c', hbecomes, h'⟩ := ih h₁
      have hsame : (dropped ∨ a = .drop k) ∨ .drop k ∈ acts ↔ dropped ∨
          .drop k ∈ a :: acts := by
        rw [List.mem_cons, or_assoc, eq_comm]
      exact ⟨c', hbecomes₁.trans hbecomes, h'.sound, h'.counted, h'.here,
        h'.logs.mono hsame.mp, h'.dropped ∘ hsame.mpr, h'.lost⟩

end Traffic

/-- **A link ends in the first tick that gives it a reason to, and gives
everything back once.**  Take a link that is connected at some time under any
policy, and let anything happen then in any order.  What it reports is the
reason that the latest tick in its logbook gives, if it gives one; no tick
before that did.  It has ended if there was a reason, or if it was dropped, and
not otherwise: after any other tick it waits for the next one.  Once it has
ended it does not hold its channel.  And whatever is done next, if the link ends
by it, that comes with all that is due to come with an end; and if it had ended
before, nothing comes of it. -/
theorem link_ends_once_with_first_reason {ε : Type} [Endpoint ε]
    {channels queueCapacity : Nat} {d : Downlink}
    (hcreate : Pool.create? channels queueCapacity = some d.pool)
    (before after : List (Act ε)) (name : String) (policy : Policy)
    (config : LinkConfig) (now : Nat) (endpoint : ε) {c₀ : Course ε}
    (hc₀ :
      (((Traffic.start d).run before).act
        (.connect name policy config now endpoint)).courses[
          ((Traffic.start (ε := ε) d).run before).courses.length]? = some c₀) :
    let k := ((Traffic.start (ε := ε) d).run before).courses.length
    let w₀ :=
      ((Traffic.start d).run before).act
        (.connect name policy config now endpoint)
    let w := w₀.run after
    let book := w₀.ticksOver k [] after
    ∃ c, w.courses[k]? = some c ∧ c.link.claim = c₀.link.claim ∧
      Concludes policy book c.events ∧
      (c.link.state = .terminated ↔ exits policy book ≠ [] ∨ .drop k ∈ after) ∧
      (c.link.state ≠ .terminated →
        ∀ x ∈ book.head?,
          if x.complete then c.stand = .waiting else c.stand.ahead ≠ 0) ∧
      (c.link.state = .terminated →
        w.downlink.pool.holds c.link.claim = false) ∧
      ∀ a, ∃ c', (w.act a).courses[k]? = some c' ∧ EndsOnce k w a c c' := by
  intro k w₀ w book
  have hsound : w₀.Sound := ((Traffic.sound_start hcreate).run before).act _
  have hcounted : w₀.Counted := ((Traffic.counted_start d).run before).act _
  obtain ⟨pool, claim, _, rfl, _⟩ := Traffic.act_connect hc₀
  have hnew : Traffic.Overseen policy k False [] w₀
      { link :=
          .connect name claim (Endpoint.transport endpoint) policy config now
        config, endpoint } :=
    ⟨hsound, hcounted, hc₀, ⟨rfl, nofun, rfl, rfl, rfl, nofun⟩, nofun, nofun⟩
  obtain ⟨c, hbecomes, h⟩ := hnew.run after
  obtain ⟨hconcludes, hended⟩ := h.logs.fate
  refine ⟨c, h.here, hbecomes.claim, hconcludes, ⟨?_, ?_⟩,
    h.logs.going_on, h.lost, Traffic.endsOnce_act h.sound h.counted h.here⟩
  · intro hover
    rcases hended with ⟨hlive, _⟩ | ⟨_, hreason⟩
    · exact absurd hover hlive
    · simpa using hreason
  · rintro (hreason | hdrop)
    · rcases hended with ⟨_, hnone⟩ | ⟨hover, _⟩
      · exact absurd hnone hreason
      · exact hover
    · exact h.dropped (Or.inr hdrop)

/-- A link that gives up on a failed write and on missed heartbeats. -/
def fragile : Traffic Pipe :=
  (Traffic.start (.single 4)).act
    (.connect "gcs" { exitOnError := true, exitOnIdle := true }
      { heartbeatTimeout := 10 } 0 {})

/-- It becomes active, and is sent a byte that it will not be able to write. -/
def straining : List (Act Pipe) :=
  [going 0, going 0, beating, going 5, going 5, going 5, .ask (.publish [7]),
    .far 0 fun p => { p with failWrites := true }]

/-- Its next tick ends it, and gives everything back. -/
theorem fragile_ends_once :
    ∃ c c', (fragile.run straining).courses[0]? = some c ∧ c.isActive = true ∧
      ((fragile.run straining).act (going 6)).courses[0]? = some c' ∧
      Teardown 0 (fragile.run straining) (going 6) c c' ∧
      c'.events.filterMap Event.exit? = [.writeError] ∧
      c'.events.countP Event.isEnded = 1 := by
  have hcreate : Pool.create? 1 4 = some (Downlink.single 4).pool := rfl
  have hconnected : fragile.courses[0]? = some _ := rfl
  have hbefore : (fragile.run straining).courses[0]?.map (·.link.state) =
      some .active := by
    decide +kernel
  have hafter : (fragile.run (straining ++ [going 6])).courses[0]?.map
      (·.link.state) =
      some .terminated := by decide +kernel
  have hexits : exits { exitOnError := true, exitOnIdle := true }
      (fragile.ticksOver 0 [] (straining ++ [going 6])) = [.writeError] := by
    decide +kernel
  obtain ⟨c, hc, _, _, _, _, _, hnext⟩ :=
    link_ends_once_with_first_reason hcreate [] straining
    "gcs" { exitOnError := true, exitOnIdle := true } { heartbeatTimeout :=
        10 } 0 ({} : Pipe)
    hconnected
  obtain ⟨c', hc', hends⟩ := hnext (going 6)
  obtain ⟨c'', hc'', _, hconcludes, _⟩ :=
    link_ends_once_with_first_reason hcreate []
    (straining ++ [going 6]) "gcs" { exitOnError := true, exitOnIdle := true }
    { heartbeatTimeout := 10 } 0 ({} : Pipe) hconnected
  have hrun : (fragile.run straining).courses[0]? = some c := hc
  have hact : ((fragile.run straining).act (going 6)).courses[0]? = some c' :=
    hc'
  have hlast : (fragile.run (straining ++ [going 6])).courses[0]? = some c'' :=
    hc''
  rw [Traffic.run_append, Traffic.run_cons, Traffic.run_nil] at hlast hafter
  obtain rfl : c'' = c' := Option.some.inj (hlast.symm.trans hact)
  rw [hrun, Option.map_some, Option.some.injEq] at hbefore
  rw [hlast, Option.map_some, Option.some.injEq] at hafter
  have hreported := hconcludes.reported
  have htold := hconcludes.told
  rw [Traffic.run_nil, ← fragile] at hreported htold
  rw [show (Traffic.start (ε := Pipe) (.single 4)).courses.length =
    0 from rfl, hexits]
    at hreported htold
  refine ⟨c, c'', hrun, by simp [Course.isActive, hbefore], hlast,
    hends.teardown ?_ hafter, hreported, htold⟩
  rw [hbefore]
  exact LinkState.noConfusion

end GroundLink
