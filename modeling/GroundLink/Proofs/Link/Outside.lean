import GroundLink.Proofs.Channel.Ledger
import GroundLink.Proofs.Link.Inbound
import GroundLink.Proofs.Link.Tenancy

/-!
# What comes to a link from outside

What a link gets to know besides its own steps has three sources: bytes come
into its inbox, its channel is given away, and the flag of the channel is set.
Two runs in which these things come to two links in the same order and in the
same way (`Traffic.ComesAlike`), each at any time between any other acts, are
the same to both of them: alike links get to know the same
(`Traffic.Alike.circumstances_eq`).
-/

namespace GroundLink

namespace Downlink.Op

/-- Whether the request takes the channel of the claim away. -/
def takes (c : Claim) : Op → Bool
  | release i => i == c.index
  | releaseClaim c' => c' == c
  | _ => false

/-- What the request sets the flag of the claimed channel to, if it does. -/
def sets? (c : Claim) : Op → Option Bool
  | setActive i active => if i = c.index then some active else none
  | setClaimActive c' active => if c' = c then some active else none
  | _ => none

/-- What sets a flag takes nothing away. -/
theorem takes_of_sets {c : Claim} {op : Op} {active : Bool}
    (h : op.sets? c = some active) : op.takes c = false := by
  cases op <;> first | rfl | cases h

end Downlink.Op

namespace Pool

variable {p p' : Pool} {c : Claim}

/-- Whether the claimed channel is active, while the claim holds it. -/
def flag (c : Claim) (p : Pool) : Option Bool :=
  if p.holds c then some (p.isActive c.index) else none

/-- Without its channel a claim sees no flag. -/
theorem flag_of_not_holds (h : p.holds c = false) : p.flag c = none := by
  simp [flag, h]

/-- A claim sees the flag of its own channel. -/
theorem SameAt.flag (h : p.SameAt c.index p') : p'.flag c = p.flag c := by
  unfold Pool.flag
  rw [h.holds, h.isActive]

end Pool

namespace Downlink

variable {d : Downlink} {op : Op} {c : Claim}

/-- A request that takes a channel away has taken it away. -/
theorem holds_perform_of_takes (held : d.pool.holds c = true)
    (htakes : op.takes c = true) : (d.perform op).1.pool.holds c = false := by
  have hfreed {generation : Option Nat}
      (hfree : d.pool.isFreeable c.index generation = true) :
      (d.pool.free c.index generation).1.holds c = false := by
    rw [Pool.free_eq, if_pos hfree]
    exact d.pool.holds_vacated c
  rw [pool_perform]
  cases op with
  | release i =>
      obtain rfl : i = c.index := by simpa [Op.takes] using htakes
      apply hfreed
      rw [Pool.isFreeable_none]
      exact (Pool.holds_iff.mp held).1
  | releaseClaim c' =>
      obtain rfl : c' = c := by simpa [Op.takes] using htakes
      apply hfreed
      rw [Pool.isFreeable_claim]
      exact held
  | _ => cases htakes

/-- Any other leaves it to its holder. -/
theorem holds_perform_of_not_takes (h : d.pool.Sound)
    (held : d.pool.holds c = true) (htakes : op.takes c = false) :
    (d.perform op).1.pool.holds c = true := by
  cases op with
  | claim => exact (h.sameAt_claim held).holds.trans held
  | release i =>
      have hne : i ≠ c.index := by simpa [Op.takes] using htakes
      have hsame : d.pool.SameAt c.index (d.pool.free i none).1 := by
        rw [Pool.free_eq]
        split
        · exact d.pool.sameAt_modify_of_ne _ hne
        · exact .refl _ _
      exact hsame.holds.trans held
  | releaseClaim c' =>
      have hne : c' ≠ c := by simpa [Op.takes] using htakes
      have hsame : d.pool.SameAt c.index (d.pool.releaseClaim c').1 := by
        apply Pool.sameAt_releaseClaim
        intro held' hindex
        exact hne (Pool.holds_unique held' held hindex)
      exact hsame.holds.trans held
  | _ => exact ((perform_of_not_isTransfer rfl).2 c).trans held

/-- A flag that is set is as it has been set. -/
theorem isActive_perform_of_sets (held : d.pool.holds c = true) {active : Bool}
    (hsets : op.sets? c = some active) :
    (d.perform op).1.pool.isActive c.index = active := by
  cases op with
  | setActive i active' =>
      simp only [Op.sets?, Option.ite_none_right_eq_some,
        Option.some.injEq] at hsets
      obtain ⟨rfl, rfl⟩ := hsets
      -- an occupied channel takes any flag
      have hocc := (Pool.holds_iff.mp held).1
      unfold Pool.isOccupied at hocc
      cases hs : d.pool.slots[c.index]? with
      | none => simp [hs] at hocc
      | some s =>
          simp only [hs, Option.map_some, Option.getD_some] at hocc
          simp [perform, Pool.setActive, hs, hocc, Pool.isActive]
  | setClaimActive c' active' =>
      simp only [Op.sets?, Option.ite_none_right_eq_some,
        Option.some.injEq] at hsets
      obtain ⟨rfl, rfl⟩ := hsets
      exact Pool.isActive_setClaimActive held _
  | _ => cases hsets

/-- **What a request is to whoever holds a claim.**  It takes the channel away,
or sets its flag, or leaves both as they are. -/
theorem flag_perform (h : d.pool.Sound) (held : d.pool.holds c = true)
    (op : Op) :
    (d.perform op).1.pool.flag c =
      if op.takes c then none
      else some ((op.sets? c).getD (d.pool.isActive c.index)) := by
  cases htakes : op.takes c with
  | true => exact Pool.flag_of_not_holds (holds_perform_of_takes held htakes)
  | false =>
      have held' := holds_perform_of_not_takes h held htakes
      unfold Pool.flag
      rw [if_pos held']
      cases hsets : op.sets? c with
      | some active =>
          rw [isActive_perform_of_sets held hsets]
          rfl
      | none =>
          have hset (active : Bool) : op ≠ .setActive c.index active := by
            rintro rfl
            simp [Op.sets?] at hsets
          have hclaim (active : Bool) : op ≠ .setClaimActive c active := by
            rintro rfl
            simp [Op.sets?] at hsets
          rw [isActive_perform h hset hclaim held held']
          rfl

end Downlink

namespace Traffic

variable {ε ι : Type} [Endpoint ε] {inbox : Inbox ε ι} {k k' : Nat}
  {w w' : Traffic ε} {c c' : Course ε} {claim claim' : Claim} {a a' : Act ε}

/-- An act that is nothing to link `k`: not its own, nothing that can be read of
its endpoint is different by it, and its channel is neither taken away nor
flagged. -/
def Aside (inbox : Inbox ε ι) (k : Nat) (claim : Claim) : Act ε → Prop
  | .resume j _ => j ≠ k
  | .drop j => j ≠ k
  | .far j f => j = k → ∀ e, inbox.of (f e) = inbox.of e
  | .ask op => op.takes claim = false ∧ op.sets? claim = none
  | .connect .. => True

/-- Two acts by which the same comes to link `k` of one run and link `k'` of
another: they go on or are dropped alike, the same arrives in inboxes that held
the same, both lose their channels, or both channels are flagged alike. -/
inductive Matches (inbox : Inbox ε ι) (k k' : Nat) (claim claim' : Claim) :
    Act ε → Act ε → Prop
  | goes (cue : Cue) : Matches inbox k k' claim claim'
      (.resume k cue) (.resume k' cue)
  | dropped : Matches inbox k k' claim claim' (.drop k) (.drop k')
  | arrives {f f' : ε → ε} (h : ∀ e e', inbox.of e = inbox.of e' →
      inbox.of (f e) = inbox.of (f' e')) :
      Matches inbox k k' claim claim' (.far k f) (.far k' f')
  | taken {op op' : Downlink.Op} (h : op.takes claim = true)
      (h' : op'.takes claim' = true) :
      Matches inbox k k' claim claim' (.ask op) (.ask op')
  | flagged {op op' : Downlink.Op} {active : Bool}
      (h : op.sets? claim = some active)
      (h' : op'.sets? claim' = some active) :
      Matches inbox k k' claim claim' (.ask op) (.ask op')

/-- **Two runs in which the same comes to two links** from outside, in the same
order, with any other acts in between. -/
inductive ComesAlike (inbox : Inbox ε ι) (k k' : Nat) (claim claim' : Claim) :
    List (Act ε) → List (Act ε) → Prop
  | nil : ComesAlike inbox k k' claim claim' [] []
  | left {a : Act ε} {acts acts' : List (Act ε)} (ha : Aside inbox k claim a)
      (h : ComesAlike inbox k k' claim claim' acts acts') :
      ComesAlike inbox k k' claim claim' (a :: acts) acts'
  | right {a' : Act ε} {acts acts' : List (Act ε)}
      (ha' : Aside inbox k' claim' a')
      (h : ComesAlike inbox k k' claim claim' acts acts') :
      ComesAlike inbox k k' claim claim' acts (a' :: acts')
  | both {a a' : Act ε} {acts acts' : List (Act ε)}
      (ha : Matches inbox k k' claim claim' a a')
      (h : ComesAlike inbox k k' claim claim' acts acts') :
      ComesAlike inbox k k' claim claim' (a :: acts) (a' :: acts')

/-! ## One act -/

/-- A claim that is lost stays lost, and so does the flag. -/
theorem Sound.flag_act_of_lost (h : w.Sound) (hk : w.courses[k]? = some c)
    (hlost : w.downlink.pool.holds c.link.claim = false) (a : Act ε) :
    (w.act a).downlink.pool.flag c.link.claim =
      w.downlink.pool.flag c.link.claim := by
  have hlost' : (w.act a).downlink.pool.holds c.link.claim = false :=
    h.lost_run hk hlost [a]
  rw [Pool.flag_of_not_holds hlost, Pool.flag_of_not_holds hlost']

/-- What a request is to a link, whether it still has its channel or not. -/
theorem Sound.flag_ask (h : w.Sound) (hk : w.courses[k]? = some c)
    (op : Downlink.Op) :
    (w.act (.ask op)).downlink.pool.flag c.link.claim =
      if op.takes c.link.claim then none
      else (w.downlink.pool.flag c.link.claim).map
        fun active => (op.sets? c.link.claim).getD active := by
  cases held : w.downlink.pool.holds c.link.claim with
  | true =>
      have hbefore : w.downlink.pool.flag c.link.claim =
          some (w.downlink.pool.isActive c.link.claim.index) := if_pos held
      rw [hbefore]
      exact Downlink.flag_perform h.pool held op
  | false =>
      rw [h.flag_act_of_lost hk held, Pool.flag_of_not_holds held]
      split <;> rfl

/-- What is nothing to a link shows it nothing new. -/
theorem Sound.sight_aside (h : w.Sound) (hk : w.courses[k]? = some c)
    (ha : Aside inbox k c.link.claim a) :
    (w.act a).sight inbox k = w.sight inbox k := by
  rw [sight_eq hk]
  rcases h.holder_cases hk a with ⟨t, stand, hwork, heq⟩ |
    ⟨_, hk', hchannel⟩ | ⟨op, rfl, heq⟩
  · -- the link's own doing can only be at the far end of its endpoint
    cases hwork with
    | resume cue => exact (ha rfl).elim
    | drop => exact (ha rfl).elim
    | far f =>
        have hk' := course_commit hk { c.turn w.board with
          endpoint := f c.endpoint } c.stand
        rw [heq, sight_eq hk']
        have hholds : inbox.of (f c.endpoint) = inbox.of c.endpoint :=
          ha rfl c.endpoint
        exact congrArg (fun x => some (x, _)) hholds
  · rw [sight_eq hk']
    have hflag : (w.act a).downlink.pool.flag c.link.claim =
        w.downlink.pool.flag c.link.claim := by
      cases held : w.downlink.pool.holds c.link.claim with
      | true => exact (hchannel held).flag
      | false => exact h.flag_act_of_lost hk held a
    exact congrArg (fun x => some (_, x)) hflag
  · have hk' : (w.act (.ask op)).courses[k]? = some c := by
      rw [heq]
      exact hk
    have hflag := h.flag_ask hk op
    rw [ha.1, ha.2] at hflag
    rw [sight_eq hk']
    have hsame : (w.act (.ask op)).downlink.pool.flag c.link.claim =
        w.downlink.pool.flag c.link.claim := by simpa using hflag
    exact congrArg (fun x => some (_, x)) hsame

/-- Nothing that is done to a link from outside is its own doing. -/
theorem Aside.not_own (ha : Aside inbox k claim a) :
    (a.own? k : Option (Circumstance ι)) = none := by
  cases a with
  | resume j cue => exact if_neg ha
  | drop j => exact if_neg ha
  | _ => rfl

/-- **The same comes to two links**: if it is not their own doing, they can see
the same afterwards. -/
theorem Alike.sight_matches (h : Alike inbox k k' w w' c c') (hw : w.Sound)
    (hw' : w'.Sound)
    (ha : Matches inbox k k' c.link.claim c'.link.claim a a')
    (hown : (a.own? k : Option (Circumstance ι)) = none) :
    (w.act a).sight inbox k = (w'.act a').sight inbox k' := by
  have hflag : w.downlink.pool.flag c.link.claim =
      w'.downlink.pool.flag c'.link.claim := h.turn.flag
  have hholds : inbox.of c.endpoint = inbox.of c'.endpoint := h.turn.holds
  -- a request leaves both inboxes alone
  have hask {op op' : Downlink.Op}
      (hflag' : (w.act (.ask op)).downlink.pool.flag c.link.claim =
        (w'.act (.ask op')).downlink.pool.flag c'.link.claim) :
      (w.act (.ask op)).sight inbox k = (w'.act (.ask op')).sight inbox k' := by
    have hk : (w.act (.ask op)).courses[k]? = some c := h.here
    have hk' : (w'.act (.ask op')).courses[k']? = some c' := h.there
    rw [sight_eq hk, sight_eq hk', hholds]
    exact congrArg (fun x => some (_, x)) hflag'
  cases ha with
  | goes cue => simp [Act.own?] at hown
  | dropped => simp [Act.own?] at hown
  | arrives hf =>
      rename_i f f'
      have hk := course_commit h.here
        { c.turn w.board with endpoint := f c.endpoint } c.stand
      have hk' := course_commit h.there
        { c'.turn w'.board with endpoint := f' c'.endpoint } c'.stand
      rw [act_far h.here, act_far h.there, sight_eq hk, sight_eq hk']
      have harrived : inbox.of (f c.endpoint) = inbox.of (f' c'.endpoint) :=
        hf _ _ hholds
      exact congrArg some (Prod.ext harrived hflag)
  | taken htakes htakes' =>
      apply hask
      rw [hw.flag_ask h.here, hw'.flag_ask h.there, if_pos htakes,
        if_pos htakes']
  | flagged hsets hsets' =>
      apply hask
      rw [hw.flag_ask h.here, hw'.flag_ask h.there, hsets, hsets', hflag,
        Downlink.Op.takes_of_sets hsets, Downlink.Op.takes_of_sets hsets']

/-- Acts that match are the same to both links. -/
theorem Matches.own_eq (ha : Matches inbox k k' claim claim' a a') :
    (a.own? k : Option (Circumstance ι)) = a'.own? k' := by
  cases ha <;> simp [Act.own?]

/-! ## Two runs -/

variable [DecidableEq ι]

/-- What shows a link nothing new is nothing to it. -/
theorem Sound.circumstance_aside (h : w.Sound) (hk : w.courses[k]? = some c)
    (ha : Aside inbox k c.link.claim a) : w.circumstance inbox k a = none := by
  have hown : (a.own? k : Option (Circumstance ι)) = none := ha.not_own
  unfold circumstance
  rw [hown]
  exact if_pos (h.sight_aside hk ha)

/-- **The same comes to two links**, and both get to know it alike. -/
theorem Alike.circumstance_matches (h : Alike inbox k k' w w' c c')
    (hw : w.Sound) (hw' : w'.Sound)
    (ha : Matches inbox k k' c.link.claim c'.link.claim a a') :
    w.circumstance inbox k a = w'.circumstance inbox k' a' := by
  have heq := ha.own_eq
  unfold circumstance
  cases hown : (a.own? k : Option (Circumstance ι)) with
  | some x => rw [← heq, hown]
  | none =>
      rw [← heq, hown, h.sight_matches hw hw' ha hown, h.sight]

/-- They stay alike, too. -/
theorem Alike.matches (h : Alike inbox k k' w w' c c') (hw : w.Sound)
    (hw' : w'.Sound)
    (ha : Matches inbox k k' c.link.claim c'.link.claim a a') :
    ∃ c₁ c₁', Alike inbox k k' (w.act a) (w'.act a') c₁ c₁' := by
  have hsame := h.circumstance_matches hw hw' ha
  cases hx : w.circumstance inbox k a with
  | some x =>
      rw [hx] at hsame
      exact h.act hx hsame.symm
  | none =>
      rw [hx] at hsame
      obtain ⟨c₁, h₁⟩ := h.quiet hx
      obtain ⟨c₁', h₂⟩ := h₁.symm.quiet hsame.symm
      exact ⟨c₁, c₁', h₂.symm⟩

/-- **Two runs in which the same comes to alike links** are the same to both:
they get to know the same, whatever else happens in either, and when. -/
theorem Alike.circumstances_eq (h : Alike inbox k k' w w' c c')
    (hw : w.Sound) (hw' : w'.Sound) {acts acts' : List (Act ε)}
    (hsame : ComesAlike inbox k k' c.link.claim c'.link.claim acts acts') :
    w.circumstances inbox k acts = w'.circumstances inbox k' acts' := by
  -- a link keeps its claim, whatever happens
  have hkeeps {v : Traffic ε} {j : Nat} {b b₁ : Course ε} {x : Act ε}
      (hj : v.courses[j]? = some b) (hj₁ : (v.act x).courses[j]? = some b₁) :
      b₁.link.claim = b.link.claim := by
    obtain ⟨b₂, hj₂, hbecomes⟩ := becomes_act hj x
    obtain rfl := Option.some.inj (hj₁.symm.trans hj₂)
    exact hbecomes.claim
  generalize hclaim : c.link.claim = claim at hsame
  generalize hclaim' : c'.link.claim = claim' at hsame
  induction hsame generalizing w w' c c' with
  | nil => rfl
  | left ha _ ih =>
      have hquiet := hw.circumstance_aside h.here (hclaim ▸ ha)
      obtain ⟨c₁, h₁⟩ := h.quiet hquiet
      have hrest := ih h₁ (hw.act _) hw'
        ((hkeeps h.here h₁.here).trans hclaim) hclaim'
      rw [circumstances, hquiet]
      exact hrest
  | right ha' _ ih =>
      have hquiet := hw'.circumstance_aside h.there (hclaim' ▸ ha')
      obtain ⟨c₁', h₁⟩ := h.symm.quiet hquiet
      have hrest := ih h₁.symm hw (hw'.act _) hclaim
        ((hkeeps h.there h₁.here).trans hclaim')
      rw [circumstances, hquiet]
      exact hrest
  | both ha _ ih =>
      subst hclaim hclaim'
      have hfirst := h.circumstance_matches hw hw' ha
      obtain ⟨c₁, c₁', h₁⟩ := h.matches hw hw' ha
      have hrest := ih h₁ (hw.act _) (hw'.act _) (hkeeps h.here h₁.here)
        (hkeeps h.there h₁.there)
      rw [circumstances, circumstances, hfirst, hrest]

end Traffic

end GroundLink
