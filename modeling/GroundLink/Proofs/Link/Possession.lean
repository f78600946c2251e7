import GroundLink.Link.Traffic
import GroundLink.Proofs.Link.Move

/-!
# Which link has which channel

Links and everybody else take channels from one pool and give them back in any
order.  `Traffic.Sound` is what holds all the same: the pool is sound, every
link has a claim that was issued, and no two links have the same claim.

Whatever a link does to the pool, it takes no occupation back (`Turn.Since`), so
that a link that has lost its channel never gets it again
(`Traffic.Sound.lost_run`).
-/

namespace GroundLink

namespace Turn

variable {ε : Type} {chunk : Nat}

/-- What has become of the pool since `t`: it is as sound as it was and no
occupation has been taken back; the link is the same. -/
structure Since (t t' : Turn ε) : Prop where
  sound : t.board.pool.Sound → t'.board.pool.Sound
  later : t.board.pool.Later t'.board.pool
  same : t'.link.claim = t.link.claim ∧ t'.link.policy = t.link.policy ∧
    t'.link.name = t.link.name

theorem Since.claim {t t' : Turn ε} (h : Since t t') :
    t'.link.claim = t.link.claim := h.same.1

/-- A step that leaves the pool alone takes nothing back. -/
theorem Since.of_same {t t' : Turn ε} (hpool : t'.board.pool = t.board.pool)
    (hlink : t'.link.claim = t.link.claim ∧ t'.link.policy = t.link.policy ∧
      t'.link.name = t.link.name) : Since t t' := by
  refine ⟨?_, ?_, hlink⟩
  · rw [hpool]
    exact id
  · rw [hpool]
    exact Pool.Later.refl _

/-- Occupations only follow on each other, over both stretches. -/
theorem Since.trans {t₁ t₂ t₃ : Turn ε} (h₁₂ : Since t₁ t₂)
    (h₂₃ : Since t₂ t₃) :
    Since t₁ t₃ := by
  obtain ⟨hclaim, hpolicy, hname⟩ := h₁₂.same
  obtain ⟨hclaim', hpolicy', hname'⟩ := h₂₃.same
  exact ⟨h₂₃.sound ∘ h₁₂.sound, h₁₂.later.trans h₂₃.later, hclaim'.trans hclaim,
    hpolicy'.trans hpolicy, hname'.trans hname⟩

/-- A signature is not an occupation. -/
theorem since_sign (t : Turn ε) : Since t t.sign :=
  ⟨fun h => h.setOwner _ _, t.board.pool.later_setOwner _ _, rfl, rfl, rfl⟩

/-- A release ends an occupation, and begins none. -/
theorem since_release (t : Turn ε) : Since t t.release := by
  by_cases hlive : t.link.state = .terminated
  · rw [release_of_past hlive]
    exact .of_same rfl ⟨rfl, rfl, rfl⟩
  · have hpool := pool_release hlive
    refine ⟨?_, ?_, by simp, by simp, by simp⟩
    · rw [hpool]
      exact fun h => h.free _ _
    · rw [hpool]
      exact t.board.pool.later_free _ _

variable [Endpoint ε]

/-- A link moves within its own occupation. -/
theorem Move.since {t t' : Turn ε} (hmove : Move chunk t t') : Since t t' := by
  have hlink := hmove.same_link
  rcases hmove.pool_cases with heq | ⟨active, heq⟩ | ⟨_, heq⟩
  · exact .of_same heq hlink
  · refine ⟨?_, ?_, hlink⟩
    all_goals rw [heq]
    · exact fun h => h.setClaimActive _ _
    · exact t.board.pool.later_setClaimActive _ _
  · refine ⟨?_, ?_, hlink⟩
    all_goals rw [heq]
    · exact fun h => h.drain _ _
    · exact t.board.pool.later_drain _ _

omit [Endpoint ε] in
/-- A link leaves by a release. -/
theorem Since.leave {t t' : Turn ε} (h : Since t t') (exit : Exit) (cue : Cue) :
    Since t (t'.leave exit cue).1 := by
  have hrelease := h.trans (since_release t')
  exact ⟨hrelease.sound, hrelease.later, hrelease.same⟩

/-- A stretch of work takes no occupation back. -/
theorem since_resume (config : LinkConfig) (cue : Cue) (stand : Stand)
    (t : Turn ε) :
    Since t (t.resume config cue stand).1 := by
  refine resume_keep (P := Since t) config cue stand ?_ ?_ (since_sign t) ?_
  · intro a b hmove hsince
    exact hsince.trans hmove.since
  · intro a exit hsince
    exact hsince.leave exit cue
  · exact .of_same rfl ⟨rfl, rfl, rfl⟩

end Turn

/-- `c'` is what has become of link `c`: claim, name, policy and settings are
the same, and it does not begin a second time. -/
structure Course.Becomes {ε : Type} (c c' : Course ε) : Prop where
  claim : c'.link.claim = c.link.claim
  policy : c'.link.policy = c.link.policy
  name : c'.link.name = c.link.name
  config : c'.config = c.config
  begun : c.stand ≠ .connected → c'.stand ≠ .connected

theorem Course.Becomes.refl {ε : Type} (c : Course ε) :
    c.Becomes c := ⟨rfl, rfl, rfl, rfl, id⟩

/-- What becomes of a link, becomes of what it has become. -/
theorem Course.Becomes.trans {ε : Type} {c₁ c₂ c₃ : Course ε}
    (h₁₂ : c₁.Becomes c₂) (h₂₃ : c₂.Becomes c₃) : c₁.Becomes c₃ :=
  ⟨h₂₃.claim.trans h₁₂.claim, h₂₃.policy.trans h₁₂.policy,
    h₂₃.name.trans h₁₂.name, h₂₃.config.trans h₁₂.config, h₂₃.begun ∘ h₁₂.begun⟩

namespace Traffic

variable {ε : Type} {w : Traffic ε}

/-- The claims of all links, in the order in which they were connected. -/
def claims (w : Traffic ε) : List Claim := w.courses.map (·.link.claim)

/-- The pool is sound, every link's claim was issued, and no two links have the
same one. -/
structure Sound (w : Traffic ε) : Prop where
  pool : w.downlink.pool.Sound
  issued : ∀ claim ∈ w.claims, w.downlink.pool.Issued claim
  distinct : w.claims.Nodup

/-- Before the first link there is only the pool to look at. -/
theorem sound_start {channels queueCapacity : Nat} {d : Downlink}
    (h : Pool.create? channels queueCapacity = some d.pool) :
    (start d : Traffic ε).Sound :=
  ⟨.create? h, fun _ hclaim => by simp [claims, start] at hclaim,
    List.nodup_nil⟩

/-- Neither the work of a link nor its drop takes an occupation back. -/
theorem work_since [Endpoint ε] {k : Nat} {c : Course ε} {a : Act ε}
    {t : Turn ε} {stand : Stand} (hwork : Work k c w.board a t stand) :
    Turn.Since (c.turn w.board) t := by
  cases hwork with
  | resume cue => exact Turn.since_resume c.config cue c.stand (c.turn w.board)
  | drop => exact Turn.since_release (c.turn w.board)
  | far f => exact .of_same rfl ⟨rfl, rfl, rfl⟩

/-- The work of a link leaves everybody the claim that they have. -/
theorem claims_commit {k : Nat} {c : Course ε} {t : Turn ε} {stand : Stand}
    (hk : w.courses[k]? = some c) (hclaim : t.link.claim = c.link.claim) :
    (w.commit k c t stand).claims = w.claims := by
  obtain ⟨hlt, hget⟩ := List.getElem?_eq_some_iff.mp hk
  have hlen : k < w.claims.length := by simpa [claims] using hlt
  have hsame : (c.after t stand).link.claim = w.claims[k] := by
    simp [claims, hget, Course.after, hclaim]
  calc (w.commit k c t stand).claims
      = w.claims.set k (c.after t stand).link.claim := List.map_set
    _ = w.claims := by rw [hsame, List.set_getElem_self]

/-- The work of one link keeps traffic sound. -/
theorem Sound.commit (h : w.Sound) {k : Nat} {c : Course ε} {t : Turn ε}
    {stand : Stand} (hk : w.courses[k]? = some c)
    (hsince : Turn.Since (c.turn w.board) t) :
    (w.commit k c t stand).Sound := by
  have hclaims : (w.commit k c t stand).claims = w.claims :=
    claims_commit hk hsince.claim
  refine ⟨hsince.sound h.pool, ?_, ?_⟩
  · intro claim hclaim
    rw [hclaims] at hclaim
    exact (h.issued claim hclaim).of_later hsince.later
  · rw [hclaims]
    exact h.distinct

/-- A claim just issued is newer than any before. -/
theorem Sound.fresh (h : w.Sound) {pool : Pool} {claim : Claim}
    (hclaim : w.downlink.pool.claim = (pool, some claim)) :
    claim ∉ w.claims ∧ pool.Sound ∧ w.downlink.pool.Later pool ∧
      ∃ s, pool.slots[claim.index]? = some s ∧ s.generation = claim.generation ∧
        s.occupied = true ∧ s.queue.toList = [] := by
  have hpool : w.downlink.pool.claim.1 = pool := congrArg Prod.fst hclaim
  have hsound := h.pool.claim
  have hlater := h.pool.later_claim
  rw [hpool] at hsound hlater
  rcases h.pool.claim_cases with ⟨hnone, _⟩ | ⟨i, s, hs, hfree, _, hsome⟩
  · rw [hclaim] at hnone
    cases hnone
  · rw [hclaim] at hsome
    obtain ⟨rfl, hnew⟩ := Prod.mk.inj hsome
    obtain rfl := Option.some.inj hnew
    have hslot := h.pool.slots s (List.mem_of_getElem? hs)
    refine ⟨?_, hsound, hlater, s.occupy, by
        simp [hs], rfl, rfl, (hslot.clean hfree).2.1⟩
    intro hold
    obtain ⟨s', hs', hle⟩ := h.issued _ hold
    obtain rfl := Option.some.inj (hs.symm.trans hs')
    dsimp only at hle
    omega

variable [Endpoint ε]

/-- **One act** keeps traffic sound. -/
theorem Sound.act (h : w.Sound) (a : Act ε) : (w.act a).Sound := by
  rcases w.act_cases a with ⟨_, hsame⟩ | ⟨k, c, t, stand, hk, hwork, heq⟩ |
    ⟨name, policy, config, now, endpoint, pool, claim, _, hclaim,
      heq⟩ | ⟨op, _, heq⟩
  · rwa [hsame]
  · rw [heq]
    exact h.commit hk (work_since hwork)
  · rw [heq]
    obtain ⟨hfresh, hsound, hlater, s, hs, hgen, _, _⟩ := h.fresh hclaim
    refine ⟨hsound, ?_, ?_⟩
    · intro old hold
      simp only [claims, List.map_append, List.mem_append, List.map_cons,
        List.map_nil] at hold
      rcases hold with hold | hold
      · exact (h.issued old hold).of_later hlater
      · obtain rfl := List.mem_singleton.mp hold
        exact ⟨s, hs, Nat.le_of_eq hgen.symm⟩
    · simp only [claims, List.map_append, List.map_cons, List.map_nil]
      refine List.nodup_append.mpr ⟨h.distinct, List.pairwise_singleton _ _, ?_⟩
      intro a ha b hb hab
      obtain rfl := List.mem_singleton.mp hb
      exact hfresh (hab ▸ ha)
  · rw [heq]
    exact ⟨Downlink.sound_perform h.pool op,
      fun c hc => (h.issued c hc).of_later (Downlink.later_perform h.pool op),
      h.distinct⟩

/-- **Any acts in any order** keep traffic sound. -/
theorem Sound.run (h : w.Sound) (acts : List (Act ε)) : (w.run acts).Sound := by
  induction acts generalizing w with
  | nil => exact h
  | cons a acts ih => exact ih (h.act a)

/-! ## What does not come back -/

/-- One act takes no occupation back. -/
theorem Sound.later_act (h : w.Sound) (a : Act ε) :
    w.downlink.pool.Later (w.act a).downlink.pool := by
  rcases w.act_cases a with ⟨_, hsame⟩ | ⟨k, c, t, stand, hk, hwork, heq⟩ |
    ⟨name, policy, config, now, endpoint, pool, claim, _, hclaim,
      heq⟩ | ⟨op, _, heq⟩
  · rw [hsame]
    exact Pool.Later.refl _
  · rw [heq]
    exact (work_since hwork).later
  · obtain ⟨_, _, hlater, _⟩ := h.fresh hclaim
    rw [heq]
    exact hlater
  · rw [heq]
    exact Downlink.later_perform h.pool op

/-- Over a whole run no occupation is taken back. -/
theorem Sound.later_run (h : w.Sound) (acts : List (Act ε)) :
    w.downlink.pool.Later (w.run acts).downlink.pool := by
  induction acts generalizing w with
  | nil => exact Pool.Later.refl _
  | cons a acts ih => exact (h.later_act a).trans (ih (h.act a))

/-- Nothing that happens makes link `k` another one, or one that has not
begun. -/
theorem becomes_act {k : Nat} {c : Course ε} (hk : w.courses[k]? = some c)
    (a : Act ε) :
    ∃ c', (w.act a).courses[k]? = some c' ∧ c.Becomes c' := by
  rcases course_act hk a with hsame | ⟨t, stand, hwork, _, hk'⟩
  · exact ⟨c, hsame, .refl c⟩
  · obtain ⟨hclaim, hpolicy, hname⟩ := (work_since hwork).same
    refine ⟨c.after t stand, hk', hclaim, hpolicy, hname, rfl, ?_⟩
    intro hbegun
    cases hwork with
    | resume cue =>
        exact Turn.resume_ne_connected c.config cue c.stand (c.turn w.board)
    | drop => exact Stand.noConfusion
    | far f => exact hbegun

/-- Every link is still there after a run, as the one it was. -/
theorem becomes_run {k : Nat} {c : Course ε} (hk : w.courses[k]? = some c)
    (acts : List (Act ε)) :
    ∃ c', (w.run acts).courses[k]? = some c' ∧ c.Becomes c' := by
  induction acts generalizing w c with
  | nil => exact ⟨c, hk, .refl c⟩
  | cons a acts ih =>
      obtain ⟨c₁, hk₁, h₁⟩ := becomes_act hk a
      obtain ⟨c', hk', h'⟩ := ih hk₁
      exact ⟨c', hk', h₁.trans h'⟩

/-- **A link that has lost its channel never gets it again**, whatever
happens. -/
theorem Sound.lost_run (h : w.Sound) {k : Nat} {c : Course ε}
    (hk : w.courses[k]? = some c)
    (hlost : w.downlink.pool.holds c.link.claim = false) (acts : List (Act ε)) :
    (w.run acts).downlink.pool.holds c.link.claim = false := by
  have hissued :=
    h.issued c.link.claim (List.mem_map_of_mem (List.mem_of_getElem? hk))
  have hstale : w.downlink.pool.Stale c.link.claim := ⟨hissued, hlost⟩
  exact (hstale.of_later (h.later_run acts)).2

end Traffic

/-- A downlink of one channel whose queue has so many cells. -/
def Downlink.single (cells : Nat) : Downlink :=
  ⟨⟨[false], [{ queue := ⟨Array.replicate cells 0, 0, 0⟩ }]⟩, ⟨1, 1, 0⟩⟩

end GroundLink
