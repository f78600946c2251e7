import GroundLink.Proofs.Channel.Waiting
import GroundLink.Proofs.Link.Possession
import Mathlib.Data.List.Nodup

/-!
# The work of other links

A link leaves alone every channel but its own.  The one exception is the name on
a channel, which a link writes when it begins, whoever has the channel by then
(`Pool.SameAt`).  So what waits on a channel, whether it is active and who holds
it are nobody's business but the holder's: `work_elsewhere`.

That two links are never at the same channel is `Sound.holder_unique`, and what
an act of the whole traffic is to one link of it is `Sound.holder_cases`.
-/

namespace GroundLink

namespace Turn

variable {ε : Type} {chunk : Nat} {t t' : Turn ε} {i : Nat}

/-- The link does not hold channel `i`. -/
def Elsewhere (i : Nat) (t : Turn ε) : Prop :=
  t.board.pool.holds t.link.claim = true → t.link.channel ≠ i

/-- A link gives back no channel but its own. -/
theorem release_elsewhere (h : t.Elsewhere i) :
    t.release.Elsewhere i ∧ t.board.pool.SameAt i t.release.board.pool := by
  by_cases hlive : t.link.state = .terminated
  · rw [release_of_past hlive]
    exact ⟨h, .refl i _⟩
  · refine ⟨?_, ?_⟩
    · intro held
      rw [holds_release hlive] at held
      cases held
    · rw [pool_release hlive]
      exact Pool.sameAt_releaseClaim h

variable [Endpoint ε]

/-- A link moves on its own channel only. -/
theorem Move.elsewhere (hmove : Move chunk t t') (h : t.Elsewhere i) :
    t'.Elsewhere i ∧ t.board.pool.SameAt i t'.board.pool := by
  refine ⟨?_, ?_⟩
  · unfold Elsewhere Link.channel at h ⊢
    rw [hmove.holds, hmove.since.claim]
    exact h
  · rcases hmove.pool_cases with heq | ⟨active, heq⟩ | ⟨held, heq⟩
    · rw [heq]
      exact .refl i _
    · rw [heq]
      exact Pool.sameAt_setClaimActive h active
    · rw [heq, Pool.drain_eq]
      exact t.board.pool.sameAt_modify_of_ne _ (h held)

/-- **A stretch of work of another link** leaves a channel alone. -/
theorem resume_elsewhere (h : t.Elsewhere i) (config : LinkConfig) (cue : Cue)
    (stand : Stand) :
    t.board.pool.SameAt i (t.resume config cue stand).1.board.pool := by
  have hsign : t.sign.Elsewhere i := by
    intro held
    exact h ((t.board.pool.holds_setOwner _ _ _).symm.trans held)
  have hboth := resume_keep
    (P := fun a => a.Elsewhere i ∧ t.board.pool.SameAt i a.board.pool)
    config cue stand ?_ ?_ ⟨hsign, t.board.pool.sameAt_setOwner _ _ _⟩
      ⟨h, .refl i _⟩
  · exact hboth.2
  · intro a b hmove ⟨helse, hsame⟩
    obtain ⟨helse', hsame'⟩ := hmove.elsewhere helse
    exact ⟨helse', hsame.trans hsame'⟩
  · intro a exit ⟨helse, hsame⟩
    obtain ⟨helse', hsame'⟩ := release_elsewhere helse
    exact ⟨helse', hsame.trans hsame'⟩

end Turn

namespace Traffic

variable {ε : Type}

/-- Links that hold the same channel are the same link. -/
theorem Sound.holder_unique {w : Traffic ε} (h : w.Sound) {j k : Nat}
    {a b : Course ε} (hj : w.courses[j]? = some a) (hk : w.courses[k]? = some b)
    (hheld : w.downlink.pool.holds b.link.claim = true) (hjk : j ≠ k) :
    (a.turn w.board).Elsewhere b.link.channel := by
  intro held hindex
  have hclaim : a.link.claim = b.link.claim :=
    Pool.holds_unique held hheld hindex
  have hj' : w.claims[j]? = some b.link.claim := by
    unfold claims
    rw [List.getElem?_map, hj, Option.map_some, hclaim]
  have hk' : w.claims[k]? = some b.link.claim := by
    unfold claims
    rw [List.getElem?_map, hk, Option.map_some]
  obtain ⟨hjlt, hjget⟩ := List.getElem?_eq_some_iff.mp hj'
  obtain ⟨hklt, hkget⟩ := List.getElem?_eq_some_iff.mp hk'
  exact hjk
    ((List.Nodup.getElem_inj_iff h.distinct).mp (hjget.trans hkget.symm))

variable [Endpoint ε]

/-- **The work of another link** leaves a channel alone. -/
theorem work_elsewhere {j : Nat} {c : Course ε} {b : Board} {a : Act ε}
    {t : Turn ε} {stand : Stand} (hwork : Work j c b a t stand) {i : Nat}
    (h : (c.turn b).Elsewhere i) :
    b.pool.SameAt i t.board.pool := by
  cases hwork with
  | resume cue => exact Turn.resume_elsewhere h c.config cue c.stand
  | drop => exact (Turn.release_elsewhere h).2
  | far f => exact .refl i _

/-- A link works by acts of its own, and by no requests. -/
theorem work_not_ask {k : Nat} {c : Course ε} {b : Board} {a : Act ε}
    {t : Turn ε} {stand : Stand} (hwork : Work k c b a t stand)
    (op : Downlink.Op) : a ≠ .ask op := by
  cases hwork <;> nofun

/-- **What an act is to link `k`.**  It is the link's own work, or a request; or
else the link stays as it is, and so does its channel as long as the link holds
it. -/
theorem Sound.holder_cases {w : Traffic ε} (h : w.Sound) {k : Nat}
    {c : Course ε} (hk : w.courses[k]? = some c) (a : Act ε) :
    (∃ t stand, Work k c w.board a t stand ∧ w.act a = w.commit k c t stand) ∨
      ((∀ op, a ≠ .ask op) ∧ (w.act a).courses[k]? = some c ∧
        (w.downlink.pool.holds c.link.claim = true →
          w.downlink.pool.SameAt c.link.channel (w.act a).downlink.pool)) ∨
      ∃ op, a = .ask op ∧
        w.act a = { w with downlink := (w.downlink.perform op).1 } := by
  rcases w.act_cases a with ⟨hask, hsame⟩ | ⟨j, c₀, t, stand, hj, hwork, heq⟩ |
    ⟨name, policy, config, now, endpoint, pool, claim, ha, hclaim,
      heq⟩ | hrequest
  · refine Or.inr (Or.inl ⟨hask, ?_, ?_⟩)
    all_goals rw [hsame]
    · exact hk
    · exact fun _ => .refl _ _
  · by_cases hjk : j = k
    · subst hjk
      obtain rfl := Option.some.inj (hk.symm.trans hj)
      exact Or.inl ⟨t, stand, hwork, heq⟩
    · refine Or.inr (Or.inl ⟨work_not_ask hwork, ?_, ?_⟩)
      · rw [heq, courses_commit hj, if_neg hjk]
        exact hk
      · intro held
        rw [heq]
        exact work_elsewhere hwork (h.holder_unique hj hk held hjk)
  · refine Or.inr (Or.inl ⟨?_, ?_, ?_⟩)
    · rw [ha]
      nofun
    · obtain ⟨hlt, _⟩ := List.getElem?_eq_some_iff.mp hk
      rw [heq]
      exact (List.getElem?_append_left hlt).trans hk
    · intro held
      have hpool : w.downlink.pool.claim.1 = pool := congrArg Prod.fst hclaim
      rw [heq, ← hpool]
      exact h.pool.sameAt_claim held
  · exact Or.inr (Or.inr hrequest)

/-- A channel that is held after an act was held before. -/
theorem Sound.held_before {w : Traffic ε} (h : w.Sound) {k : Nat} {c : Course ε}
    (hk : w.courses[k]? = some c) {a : Act ε}
    (hafter : (w.act a).downlink.pool.holds c.link.claim = true) :
    w.downlink.pool.holds c.link.claim = true := by
  cases hheld : w.downlink.pool.holds c.link.claim with
  | true => rfl
  | false =>
      have hlost := h.lost_run hk hheld [a]
      rw [run_cons, run_nil, hafter] at hlost
      cases hlost

end Traffic

end GroundLink
