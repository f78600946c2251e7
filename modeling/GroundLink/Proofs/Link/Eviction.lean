import GroundLink.Port.Pipe
import GroundLink.Proofs.Link.Possession

/-!
# A link that has lost its channel

A channel can be taken away from a link at any time and be somebody else's soon
after.  From then on the link leaves all channels alone (`Moves.lost`,
`lost_release`): it writes nothing, since it checks its claim first, and it sets
the flag and gives back by its claim only.  Its next tick ends it.

There is one exception.  A link that begins signs its channel by number, without
a look at its claim (`lost_begin`), so that a link that has lost its channel
before it begins puts its own name over that of the next owner.  There is no
other (`resume_lost_iff`).
-/

namespace GroundLink

/-- The slot with a name on it, if anybody has it. -/
def Slot.signed (name : String) (s : Slot) : Slot :=
  if s.occupied then { s with owner := some name } else s

/-- A name makes no difference exactly where nobody is or the same name is
already. -/
theorem Slot.signed_eq_self_iff {name : String} {s : Slot} :
    s.signed name = s ↔ (s.occupied = true → s.owner = some name) := by
  cases s with
  | mk occupied generation active queue owner =>
      cases occupied <;> simp [signed, eq_comm]

namespace Pool

theorem setOwner_eq (p : Pool) (i : Nat) (name : String) :
    p.setOwner i name = p.modify i (Slot.signed name) := rfl

/-- A change of one slot is none exactly if that slot is as before. -/
theorem modify_eq_self_iff {p : Pool} {i : Nat} {f : Slot → Slot} :
    p.modify i f = p ↔ ∀ s, p.slots[i]? = some s → f s = s := by
  constructor
  · intro heq s hs
    have hget := getElem?_modify p i i f
    rw [heq, if_pos rfl, hs] at hget
    exact (Option.some.inj hget).symm
  · intro hsame
    have hslots : p.slots.modify i f = p.slots := by
      apply List.ext_getElem?
      intro j
      rw [List.getElem?_modify]
      cases hj : p.slots[j]? with
      | none => rfl
      | some s =>
          by_cases hij : i = j
          · subst hij
            simp [hsame s hj]
          · simp [hij]
    unfold modify
    rw [hslots]

/-- Signing a channel makes no difference exactly where the name is already, or
nobody is. -/
theorem setOwner_eq_self_iff {p : Pool} {i : Nat} {name : String} :
    p.setOwner i name = p ↔
      ∀ s, p.slots[i]? = some s → s.occupied = true → s.owner = some name := by
  rw [setOwner_eq, modify_eq_self_iff]
  simp only [Slot.signed_eq_self_iff]

end Pool

namespace Turn

variable {ε : Type} {chunk : Nat}

/-- The link's claim is no longer good. -/
def Lost (t : Turn ε) : Prop := t.board.pool.holds t.link.claim = false

/-- The end of a link that has lost its channel leaves all channels alone. -/
theorem lost_release {t : Turn ε} (h : t.Lost) :
    t.release.board.pool = t.board.pool := by
  by_cases hlive : t.link.state = .terminated
  · rw [release_of_past hlive]
  · rw [pool_release hlive, Pool.releaseClaim_of_not_holds h]

variable [Endpoint ε]

/-- **No move** of a link that has lost its channel touches any channel. -/
theorem Move.lost {t t' : Turn ε} (hmove : Move chunk t t') (h : t.Lost) :
    t'.board.pool = t.board.pool := by
  rcases hmove.pool_cases with heq | ⟨active, heq⟩ | ⟨held, _⟩
  · exact heq
  · have hsame := t.board.pool.setClaimActive_eq t.link.claim active
    rw [h] at hsame
    exact heq.trans hsame
  · cases h.symm.trans held

/-- A link without its channel leaves the pool as it is, however it moves. -/
theorem Moves.lost {t t' : Turn ε} (hmoves : Moves chunk t t') (h : t.Lost) :
    t'.Lost ∧ t'.board.pool = t.board.pool := by
  refine hmoves.keep (P := fun a => a.Lost ∧ a.board.pool = t.board.pool) ?_
    ⟨h, rfl⟩
  intro a b hmove ⟨hlost, hpool⟩
  refine ⟨?_, (hmove.lost hlost).trans hpool⟩
  unfold Lost at hlost ⊢
  rw [hmove.holds, hmove.since.claim, hlost]

/-- Beginning signs the channel, whoever has it, and does nothing else to any
channel. -/
theorem lost_begin {t : Turn ε} (h : t.Lost) :
    t.begin.board.pool = t.board.pool.setOwner t.link.channel t.link.name := by
  have hsign : t.sign.Lost := (t.board.pool.holds_setOwner _ _ _).trans h
  exact ((moves_begin 0 t).lost hsign).2

/-- **Once it has begun**, a link that has lost its channel leaves all channels
alone. -/
theorem lost_resume {t : Turn ε} (h : t.Lost) (config : LinkConfig) (cue : Cue)
    {stand : Stand} (hbegun : stand ≠ .connected) :
    (t.resume config cue stand).1.board.pool = t.board.pool := by
  rcases stand.cases with hconnected | hunder | hpast
  · exact absurd hconnected hbegun
  · rcases resume_cases config cue t hunder with
        ⟨hmoves, _⟩ | ⟨t₁, exit, hmoves, hleave⟩
    · exact (hmoves.lost h).2
    · obtain ⟨hlost, hpool⟩ := hmoves.lost h
      rw [hleave, board_leave, lost_release hlost, hpool]
  · rw [resume_past config cue t hpast]

/-- Its next tick finds out, and ends it. -/
theorem lost_tick {t : Turn ε} (h : t.Lost) (config : LinkConfig) (cue : Cue) :
    t.resume config cue .waiting = t.leave .evicted cue := by
  have hstart : t.resume config cue .waiting = t.startTick config cue := rfl
  unfold Lost at h
  rw [hstart, startTick, h]
  rfl

omit [Endpoint ε] in
/-- What the record says of such an end. -/
theorem events_evicted (cue : Cue) (t : Turn ε) :
    ∃ before report after,
      (t.leave .evicted cue).1.events = t.events ++ before ++
        .terminated report :: after ∧
        report.exit = .evicted := by
  have hrelease : ∃ before, t.release.events = t.events ++ before := by
    by_cases hactive : t.link.state = .active
    · exact ⟨[.lowered], (release_of_active hactive).2⟩
    · exact ⟨[], by rw [(release_of_not_active hactive).2, List.append_nil]⟩
  obtain ⟨before, hbefore⟩ := hrelease
  exact ⟨before, _, _, by rw [events_leave, hbefore], rfl⟩

end Turn

namespace Traffic

variable {ε : Type} [Endpoint ε] {w : Traffic ε} {k : Nat} {c : Course ε}

/-- To drop a link without its channel changes no channel. -/
theorem drop_lost (hk : w.courses[k]? = some c)
    (hlost : w.downlink.pool.holds c.link.claim = false) :
    (w.act (.drop k)).downlink = w.downlink := by
  have hturn : (c.turn w.board).Lost := hlost
  have hpool := Turn.lost_release hturn
  rw [act_drop hk]
  simp only [commit, hpool]
  rfl

/-- A link that begins without its channel writes its name there all the
same. -/
theorem begin_lost (hk : w.courses[k]? = some c)
    (hlost : w.downlink.pool.holds c.link.claim = false)
    (hconnected : c.stand = .connected) (cue : Cue) :
    (w.act (.resume k cue)).downlink =
      { w.downlink with
        pool := w.downlink.pool.setOwner c.link.channel c.link.name } := by
  have hturn : (c.turn w.board).Lost := hlost
  have hpool := Turn.lost_begin hturn
  rw [act_resume hk, hconnected]
  simp only [commit, Turn.resume, hpool]
  rfl

/-- A link without its channel that has begun changes no channel. -/
theorem resume_lost (hk : w.courses[k]? = some c)
    (hlost : w.downlink.pool.holds c.link.claim = false)
    (hbegun : c.stand ≠ .connected) (cue : Cue) :
    (w.act (.resume k cue)).downlink = w.downlink := by
  have hturn : (c.turn w.board).Lost := hlost
  have hpool := Turn.lost_resume hturn c.config cue hbegun
  rw [act_resume hk]
  simp only [commit, hpool]
  rfl

/-- **The exception**, exactly: a link that goes on changes something if it has
not begun and somebody else's name is on the channel. -/
theorem resume_lost_iff (hk : w.courses[k]? = some c)
    (hlost : w.downlink.pool.holds c.link.claim = false) (cue : Cue) :
    (w.act (.resume k cue)).downlink = w.downlink ↔
      (c.stand = .connected → ∀ s, w.downlink.pool.slots[c.link.channel]? =
        some s →
        s.occupied = true → s.owner = some c.link.name) := by
  by_cases hconnected : c.stand = .connected
  · have hsame : ({ w.downlink with
        pool := w.downlink.pool.setOwner c.link.channel c.link.name } :
          Downlink) = w.downlink ↔
          w.downlink.pool.setOwner c.link.channel c.link.name =
            w.downlink.pool :=
      ⟨congrArg Downlink.pool, fun hpool => by rw [hpool]⟩
    rw [begin_lost hk hlost hconnected cue, hsame, Pool.setOwner_eq_self_iff]
    simp only [hconnected, forall_const]
  · constructor
    · intro _ hyes
      exact absurd hyes hconnected
    · intro _
      exact resume_lost hk hlost hconnected cue

/-- The tick of a link that has lost its channel ends it, and says why. -/
theorem tick_lost (hk : w.courses[k]? = some c)
    (hlost : w.downlink.pool.holds c.link.claim = false)
    (hwaiting : c.stand = .waiting) (cue : Cue) :
    ∃ c' before report after, (w.act (.resume k cue)).courses[k]? = some c' ∧
      c'.stand = .ending ∧ c'.link.state = .terminated ∧
      c'.events = c.events ++ before ++ .terminated report :: after ∧
      report.exit = .evicted := by
  have hturn : (c.turn w.board).Lost := hlost
  obtain ⟨before, report, after, hevents, hexit⟩ :=
    Turn.events_evicted cue (c.turn w.board)
  have htick := Turn.lost_tick hturn c.config cue
  refine ⟨c.after ((c.turn w.board).leave .evicted cue).1 .ending, before,
    report, after, ?_, rfl, ?_, hevents, hexit⟩
  · rw [act_resume hk, courses_commit hk, if_pos rfl, hwaiting, htick]
    rfl
  · exact congrArg Link.state (Turn.link_release _)

end Traffic

/-- **A link that has lost its channel leaves all channels alone**, whatever has
happened in between, with the one exception of beginning.  It changes
something exactly if it has not begun and somebody has the channel under
another name by now, and then no more than that name.  Its next tick ends it. -/
theorem evicted_link_isolated_iff {ε : Type} [Endpoint ε]
    {channels queueCapacity : Nat} {d : Downlink}
    (hcreate : Pool.create? channels queueCapacity = some d.pool)
    (acts more : List (Act ε)) {k : Nat} {c : Course ε}
    (hk : ((Traffic.start d).run acts).courses[k]? = some c)
    (hlost : ((Traffic.start d).run acts).downlink.pool.holds c.link.claim =
      false) :
    let w := (Traffic.start d).run (acts ++ more)
    ∃ c', w.courses[k]? = some c' ∧ c.Becomes c' ∧
      w.downlink.pool.holds c'.link.claim = false ∧
      (w.act (.drop k)).downlink = w.downlink ∧
      ∀ cue,
        ((w.act (.resume k cue)).downlink = w.downlink ↔
          (c'.stand = .connected →
            ∀ s, w.downlink.pool.slots[c'.link.channel]? = some s →
            s.occupied = true → s.owner = some c'.link.name)) ∧
        (c'.stand = .connected → (w.act (.resume k cue)).downlink =
          { w.downlink with
            pool := w.downlink.pool.setOwner c'.link.channel c'.link.name }) ∧
        (c'.stand = .waiting → ∃ c'' before report after,
          (w.act (.resume k cue)).courses[k]? = some c'' ∧ c''.stand = .ending ∧
            c''.link.state = .terminated ∧
            c''.events = c'.events ++ before ++ .terminated report :: after ∧
            report.exit = .evicted) := by
  intro w
  have hsound : ((Traffic.start d).run acts).Sound :=
    (Traffic.sound_start hcreate).run acts
  have hw : w = ((Traffic.start d).run acts).run more :=
    Traffic.run_append _ acts more
  obtain ⟨c', hk', hbecomes⟩ := Traffic.becomes_run hk more
  have hlost' := hsound.lost_run hk hlost more
  rw [← hw] at hk' hlost'
  rw [← hbecomes.claim] at hlost'
  refine ⟨c', hk', hbecomes, hlost', Traffic.drop_lost hk' hlost', ?_⟩
  intro cue
  refine ⟨Traffic.resume_lost_iff hk' hlost' cue, ?_, ?_⟩
  · intro hconnected
    exact Traffic.begin_lost hk' hlost' hconnected cue
  · intro hwaiting
    exact Traffic.tick_lost hk' hlost' hwaiting cue

/-- A link is connected, its channel is taken away, and somebody else has it,
signs it, activates it and is sent two bytes. -/
def handedOver : List (Act Pipe) :=
  [.connect "first" .tcp {} 0 ({} : Pipe), .ask (.release 0), .ask .claim,
    .ask (.setOwner 0 "next"), .ask (.setActive 0 true), .ask (.publish [7, 8])]

/-- The link that has lost its channel in this way leaves all channels alone
when it is dropped, and does not when it begins. -/
theorem handedOver_isolated_iff :
    let w := (Traffic.start (.single 4)).run handedOver
    w.downlink.pool.holds ⟨0, 1⟩ = false ∧
      (w.act (.drop 0)).downlink = w.downlink ∧
      (w.act (.resume 0 ⟨5, .ok (), none⟩)).downlink ≠ w.downlink := by
  intro w
  have hcreate : Pool.create? 1 4 = some (Downlink.single 4).pool := rfl
  have hk : w.courses[0]? = some _ := rfl
  obtain ⟨c, hc, _, hlost, hdrop, hresume⟩ :=
    evicted_link_isolated_iff hcreate handedOver [] hk rfl
  obtain rfl : _ = c := Option.some.inj (hk.symm.trans hc)
  refine ⟨hlost, hdrop, ?_⟩
  obtain ⟨hiff, _, _⟩ := hresume ⟨5, .ok (), none⟩
  intro hsame
  have howner : some "next" = some "first" := hiff.mp hsame rfl _ rfl rfl
  exact absurd howner (by decide)

/-- When it begins after that, it puts its name on a channel that is not its
own. -/
theorem begin_overwrites_next_owner :
    let w := (Traffic.start (.single 4)).run handedOver
    w.downlink.pool.holds ⟨0, 1⟩ = false ∧ w.downlink.pool.holds ⟨0, 2⟩ = true ∧
      w.downlink.pool.owner 0 = some "next" ∧
      (w.act (.resume 0 ⟨5, .ok (), none⟩)).downlink.pool.owner 0 =
        some "first" :=
  ⟨rfl, rfl, rfl, rfl⟩

end GroundLink
