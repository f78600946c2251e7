import GroundLink.Link.Lobby
import GroundLink.Proofs.Channel.Ledger
import GroundLink.Proofs.Link.ActiveCount
import GroundLink.Proofs.Link.Elsewhere

/-!
# Links and their channels

As long as nobody but links takes channels or gives them back, every link that
has not ended has its channel, and no other channel is taken:
`Traffic.Tenanted`.

The row of marks is what carries this.  In a sound pool the marks count the
occupied channels, no move of a link touches a mark (`Turn.Lodged`), and a
link's end clears one, its own (`Turn.Left`).  Since every end goes through
`Turn.release`, wherever the link waits then, there is no way to end that leaves
a mark behind or clears another's.

That there is a free channel exactly while there are fewer links than channels
follows.
-/

namespace GroundLink

/-! ## Counting channels -/

namespace Pool

/-- Every channel is free, and nothing is left on it. -/
def Cleared (p : Pool) : Prop := ∀ s ∈ p.slots, s.occupied = false ∧ s.Clean

variable {p p' : Pool}

/-- A flag is no mark. -/
theorem taken_setClaimActive (p : Pool) (c : Claim) (active : Bool) :
    (p.setClaimActive c active).1.taken = p.taken := by
  rw [setClaimActive_eq]
  split <;> rfl

/-- A drain marks nothing. -/
theorem taken_drain (p : Pool) (i n : Nat) :
    (p.drain i n).1.taken = p.taken := by
  rw [drain_eq]
  rfl

/-- The marks count the occupied channels. -/
theorem Sound.occupiedCount_eq (h : p.Sound) :
    p.occupiedCount = p.taken.count true := by
  unfold occupiedCount
  rw [h.marks, List.count, List.countP_map]
  refine List.countP_congr fun s _ => ?_
  simp

theorem occupiedCount_le (p : Pool) :
    p.occupiedCount ≤ p.capacity := List.countP_le_length

/-- Pools with the same marks have as many channels, and as many that are
occupied. -/
theorem Sound.occupiedCount_congr (h : p.Sound) (h' : p'.Sound)
    (htaken : p'.taken = p.taken) :
    p'.capacity = p.capacity ∧ p'.occupiedCount = p.occupiedCount := by
  rw [← h.length_taken, ← h'.length_taken, h.occupiedCount_eq,
    h'.occupiedCount_eq, htaken]
  exact ⟨rfl, rfl⟩

/-- A mark that changes counts for its channel. -/
theorem Sound.occupiedCount_set (h : p.Sound) (h' : p'.Sound) {i : Nat}
    {s : Slot} (hs : p.slots[i]? = some s) {b : Bool}
    (htaken : p'.taken = p.taken.set i b) :
    p'.capacity = p.capacity ∧
      p'.occupiedCount + s.occupied.toNat = p.occupiedCount + b.toNat := by
  have hmark := h.tidy.agree i s hs
  obtain ⟨hlt, hget⟩ := List.getElem?_eq_some_iff.mp hmark
  refine ⟨?_, ?_⟩
  · rw [← h.length_taken, ← h'.length_taken, htaken, List.length_set]
  · rw [h.occupiedCount_eq, h'.occupiedCount_eq, htaken,
      List.count_set hlt, hget]
    cases hocc : s.occupied with
    | false => cases b <;> simp
    | true =>
        have hpos : 0 < p.taken.count true := by
          rw [hocc] at hmark
          exact List.count_pos_iff.mpr (List.mem_of_getElem? hmark)
        cases b <;> simp <;> omega

/-- A channel that is handed out is one occupied channel more. -/
theorem Sound.occupiedCount_claim (h : p.Sound) {c : Claim}
    (hc : p.claim.2 = some c) :
    p.claim.1.capacity = p.capacity ∧
    p.claim.1.occupiedCount = p.occupiedCount + 1 := by
  have hsound := h.claim
  rcases h.claim_cases with ⟨hnone, _⟩ | ⟨i, s, hs, hfree, _, hsome⟩
  · rw [hnone] at hc
    cases hc
  · rw [hsome] at hsound ⊢
    obtain ⟨hcapacity, hcount⟩ := h.occupiedCount_set hsound hs rfl
    rw [hfree] at hcount
    exact ⟨hcapacity, by simpa using hcount⟩

/-- A channel is handed out exactly when not all are occupied. -/
theorem Sound.exists_claim_iff (h : p.Sound) :
    (∃ c, p.claim.2 = some c) ↔ p.occupiedCount < p.capacity := by
  have hle := p.occupiedCount_le
  have hfull : p.occupiedCount = p.capacity ↔ ∀ s ∈ p.slots,
      s.occupied = true :=
    List.countP_eq_length
  rcases h.claim_cases with ⟨hnone, hall⟩ | ⟨i, s, hs, hfree, _, hsome⟩
  · have hcount := hfull.mpr hall
    rw [hnone, hcount]
    simp
  · have hne : p.occupiedCount ≠ p.capacity := by
      intro hcount
      have hocc := hfull.mp hcount s (List.mem_of_getElem? hs)
      rw [hfree] at hocc
      cases hocc
    rw [hsome]
    exact iff_of_true ⟨_, rfl⟩ (by omega)

/-- No channel of a new pool is occupied. -/
theorem occupiedCount_create? {channels queueCapacity : Nat}
    (h : Pool.create? channels queueCapacity = some p) :
    p.occupiedCount = 0 := by
  unfold Pool.create? at h
  split at h
  · cases h
    rfl
  · obtain ⟨queue, _, rfl⟩ := Option.map_eq_some_iff.mp h
    simp [occupiedCount, List.countP_replicate]

/-- Where nothing is occupied, every channel is clean. -/
theorem Sound.cleared (h : p.Sound) (hempty : p.occupiedCount = 0) :
    p.Cleared := by
  intro s hs
  have hfree : s.occupied = false := by
    simpa using List.countP_eq_zero.mp hempty s hs
  exact ⟨hfree, (h.slots s hs).clean hfree⟩

end Pool

/-- **A request** that neither takes a channel nor gives one back leaves the
marks alone, and every claim as good as it was. -/
theorem Downlink.perform_of_not_isTransfer {d : Downlink} {op : Downlink.Op}
    (hop : op.isTransfer = false) :
    (d.perform op).1.pool.taken = d.pool.taken ∧
      ∀ c, (d.perform op).1.pool.holds c = d.pool.holds c := by
  rw [pool_perform]
  split
  · refine ⟨rfl, ?_⟩
    intro c
    unfold Pool.holds Pool.publish
    rw [List.getElem?_map]
    cases d.pool.slots[c.index]? <;> simp [Slot.isHeldAs]
  · cases hop
  · cases hop
  · cases hop
  · exact ⟨rfl, d.pool.holds_setOwner _ _⟩
  · next i active _ =>
      rcases d.pool.setActive_eq i active with heq | ⟨heq, _⟩
      · rw [heq]
        exact ⟨rfl, fun _ => rfl⟩
      · rw [heq]
        exact ⟨rfl, fun c =>
            d.pool.holds_modify c i (fun _ => rfl) (fun _ => rfl)⟩
  · next a active _ =>
      exact ⟨d.pool.taken_setClaimActive a active,
        d.pool.holds_setClaimActive a active⟩
  · next i n _ =>
      exact ⟨d.pool.taken_drain i n, fun c => Turn.holds_drain d.pool c i n⟩
  · exact ⟨rfl, fun _ => rfl⟩

/-! ## What a link does to the marks -/

namespace Turn

variable {ε : Type} {chunk : Nat} {claim : Claim} {row : List Bool}
  {t t' : Turn ε}

/-- The link has not ended and has its channel, under the marks `row`. -/
structure Lodged (claim : Claim) (row : List Bool) (t : Turn ε) : Prop where
  live : t.link.state ≠ .terminated
  same : t.link.claim = claim
  held : t.board.pool.holds claim = true
  marks : t.board.pool.taken = row

/-- The link has ended, and of the marks `row` it has cleared its own. -/
structure Left (claim : Claim) (row : List Bool) (t : Turn ε) : Prop where
  past : t.link.state = .terminated
  marks : t.board.pool.taken = row.set claim.index false

/-- **The end** of a link clears the mark of its channel. -/
theorem Lodged.release (h : Lodged claim row t) : Left claim row t.release := by
  obtain ⟨live, rfl, held, rfl⟩ := h
  refine ⟨by simp, ?_⟩
  rw [pool_release live]
  unfold Pool.releaseClaim
  rw [Pool.free_eq, Pool.isFreeable_claim, held]
  rfl

variable [Endpoint ε]

/-- No move ends a link. -/
theorem Move.live (hmove : Move chunk t t')
    (live : t.link.state ≠ .terminated) :
    t'.link.state ≠ .terminated := by
  cases hmove with
  | refill =>
      unfold Turn.refill
      split <;> exact live
  | fault =>
      unfold writeFailed
      dsimp only
      split <;> exact live
  | appear => exact LinkState.noConfusion
  | vanish => exact LinkState.noConfusion
  | _ => exact live

/-- No move marks a channel. -/
theorem Move.taken (hmove : Move chunk t t') :
    t'.board.pool.taken = t.board.pool.taken := by
  rcases hmove.pool_cases with heq | ⟨active, heq⟩ | ⟨_, heq⟩
  · rw [heq]
  · rw [heq, Pool.taken_setClaimActive]
  · rw [heq, Pool.taken_drain]

/-- However it moves, a link keeps its channel and the marks. -/
theorem Lodged.moves (h : Lodged claim row t) (hmoves : Moves chunk t t') :
    Lodged claim row t' := by
  refine hmoves.keep ?_ h
  intro a b hmove h
  exact ⟨hmove.live h.live, hmove.since.claim.trans h.same,
    (hmove.holds claim).trans h.held, hmove.taken.trans h.marks⟩

/-- **A stretch of work** of a link that has its channel leaves the marks alone,
or ends the link and clears its own. -/
theorem Lodged.resume (h : Lodged claim row t) (config : LinkConfig) (cue : Cue)
    {stand : Stand} (hpast : stand.isPast = false) :
    Lodged claim row (t.resume config cue stand).1 ∨
      Left claim row (t.resume config cue stand).1 := by
  rcases stand.cases with rfl | hunder | hover
  · have hsign : Lodged claim row t.sign :=
      ⟨h.live, h.same, (t.board.pool.holds_setOwner _ _ _).trans h.held,
        h.marks⟩
    exact Or.inl (hsign.moves (moves_begin config.writeChunk t))
  · rcases resume_cases config cue t hunder with
        ⟨hmoves, _⟩ | ⟨t₁, exit, hmoves, hleave⟩
    · exact Or.inl (h.moves hmoves)
    · have hleft := (h.moves hmoves).release
      rw [hleave]
      exact Or.inr ⟨hleft.past, hleft.marks⟩
  · rw [hover] at hpast
    cases hpast

end Turn

/-! ## All links -/

namespace Traffic

variable {ε : Type} {channels : Nat} {w : Traffic ε}

/-- Every link that has not ended has its channel, and no other channel is
occupied. -/
structure Tenanted (channels : Nat) (w : Traffic ε) : Prop where
  sound : w.Sound
  counted : w.Counted
  capacity : w.downlink.pool.capacity = channels
  held : ∀ {k : Nat} {c : Course ε}, w.courses[k]? = some c →
    c.link.isLive = true →
    w.downlink.pool.holds c.link.claim = true
  occupied : w.downlink.pool.occupiedCount = w.live

/-- Before the first link there are no tenants. -/
theorem tenanted_start {queueCapacity : Nat} {d : Downlink}
    (h : Pool.create? channels queueCapacity = some d.pool) :
    (start d : Traffic ε).Tenanted channels where
  sound := sound_start h
  counted := counted_start d
  capacity := Pool.capacity_create? h
  held := by
    intro k c hk
    cases hk
  occupied := Pool.occupiedCount_create? h

/-- One link changes the number of links by what becomes of it. -/
theorem live_commit {k : Nat} {c : Course ε} (hk : w.courses[k]? = some c)
    (t : Turn ε) (stand : Stand) :
    (w.commit k c t stand).live + c.link.isLive.toNat =
      w.live + t.link.isLive.toNat := by
  obtain ⟨hlt, hget⟩ := List.getElem?_eq_some_iff.mp hk
  have hlink : (c.after t stand).link = t.link := rfl
  unfold live commit
  simp only [List.countP_set hlt, hget, hlink]
  cases hbefore : c.link.isLive with
  | false => cases t.link.isLive <;> simp
  | true =>
      have hpos : 0 < w.courses.countP (·.link.isLive) :=
        List.countP_pos_iff.mpr ⟨c, List.mem_of_getElem? hk, hbefore⟩
      cases t.link.isLive <;> simp <;> omega

variable [Endpoint ε]

/-- What the work of a link that has not ended makes of it and of the marks. -/
theorem Tenanted.work (h : w.Tenanted channels) {k : Nat} {c : Course ε}
    {a : Act ε} {t : Turn ε} {stand : Stand} (hk : w.courses[k]? = some c)
    (hwork : Work k c w.board a t stand) (hlive : c.link.isLive = true) :
    t.Lodged c.link.claim w.downlink.pool.taken ∨
    t.Left c.link.claim w.downlink.pool.taken := by
  have hstate : c.link.state ≠ .terminated := by simpa [Link.isLive] using hlive
  have hlodged : (c.turn w.board).Lodged c.link.claim w.downlink.pool.taken :=
    ⟨hstate, rfl, h.held hk hlive, rfl⟩
  cases hwork with
  | resume cue =>
      have hpast : c.stand.isPast = false := by
        simpa using mt
          (h.counted.orderly c (List.mem_of_getElem? hk)).past.mp hstate
      exact hlodged.resume c.config cue hpast
  | drop => exact Or.inr hlodged.release
  | far f => exact Or.inl ⟨hstate, rfl, h.held hk hlive, rfl⟩

/-- A link that has ended touches no channel. -/
theorem Counted.pool_work (h : w.Counted) {k : Nat} {c : Course ε} {a : Act ε}
    {t : Turn ε} {stand : Stand} (hk : w.courses[k]? = some c)
    (hwork : Work k c w.board a t stand)
    (hterminated : c.link.state = .terminated) :
    t.board.pool = w.downlink.pool := by
  have hpast := (h.orderly c (List.mem_of_getElem? hk)).past.mpr hterminated
  cases hwork with
  | resume cue =>
      rw [Turn.resume_past c.config cue (c.turn w.board) hpast]
      rfl
  | drop =>
      rw [Turn.release_of_past (t := c.turn w.board) hterminated]
      rfl
  | far f => rfl

/-- The work of a link changes the number of occupied channels by what becomes
of it. -/
theorem Tenanted.occupied_work (h : w.Tenanted channels) {k : Nat}
    {c : Course ε} {a : Act ε} {t : Turn ε} {stand : Stand}
    (hk : w.courses[k]? = some c) (hwork : Work k c w.board a t stand) :
    t.board.pool.capacity = channels ∧
      t.board.pool.occupiedCount + c.link.isLive.toNat =
        w.downlink.pool.occupiedCount + t.link.isLive.toNat ∧
      (t.link.isLive = true → t.board.pool.holds c.link.claim = true) := by
  have hsound : t.board.pool.Sound := (work_since hwork).sound h.sound.pool
  cases hlive : c.link.isLive with
  | false =>
      have hterminated : c.link.state = .terminated := by
        simpa [Link.isLive] using hlive
      have hover : t.link.isLive = false := by
        simpa [Link.isLive] using h.counted.terminated_work hk hwork hterminated
      rw [h.counted.pool_work hk hwork hterminated, hover]
      exact ⟨h.capacity, rfl, nofun⟩
  | true =>
      rcases h.work hk hwork hlive with hlodged | hleft
      · have hstill : t.link.isLive = true := by
          simpa [Link.isLive] using hlodged.live
        obtain ⟨hcapacity, hcount⟩ :=
          h.sound.pool.occupiedCount_congr hsound hlodged.marks
        rw [hcapacity, hcount, hstill]
        exact ⟨h.capacity, rfl, fun _ => hlodged.held⟩
      · have hover : t.link.isLive = false := by
          simpa [Link.isLive] using hleft.past
        have hocc := (Pool.holds_iff.mp (h.held hk hlive)).1
        obtain ⟨s, hs, hs'⟩ := Pool.isOccupied_eq_true hocc
        obtain ⟨hcapacity, hcount⟩ :=
          h.sound.pool.occupiedCount_set hsound hs hleft.marks
        rw [hs'] at hcount
        rw [hcapacity, hover]
        exact ⟨h.capacity, hcount, nofun⟩

/-- **The work of one link** leaves every link its channel. -/
theorem Tenanted.commit (h : w.Tenanted channels) {k : Nat} {c : Course ε}
    {a : Act ε} {t : Turn ε} {stand : Stand} (hk : w.courses[k]? = some c)
    (hwork : Work k c w.board a t stand)
    (heq : w.act a = w.commit k c t stand) :
    (w.act a).Tenanted channels := by
  obtain ⟨hcapacity, hoccupied, hheld⟩ := h.occupied_work hk hwork
  have hlive := live_commit hk t stand
  have hpool : (w.act a).downlink.pool = t.board.pool := by rw [heq]; rfl
  refine ⟨h.sound.act a, h.counted.act a, by rw [hpool, hcapacity], ?_, ?_⟩
  · intro j c' hj hlive'
    rw [hpool]
    rw [heq, courses_commit hk] at hj
    by_cases hkj : k = j
    · subst hkj
      rw [if_pos rfl] at hj
      obtain rfl := Option.some.inj hj
      have hclaim : (c.after t stand).link.claim = c.link.claim :=
        (work_since hwork).claim
      rw [hclaim]
      exact hheld hlive'
    · -- another link's channel is none of this one's business
      rw [if_neg hkj] at hj
      have hbefore := h.held hj hlive'
      have helse := h.sound.holder_unique hk hj hbefore hkj
      exact (work_elsewhere hwork helse).holds.trans hbefore
  · have hbefore := h.occupied
    rw [hpool, heq]
    omega

/-- **A link that comes in** takes one channel, and leaves the others theirs. -/
theorem Tenanted.connect (h : w.Tenanted channels) {a : Act ε} {c : Course ε}
    {pool : Pool} (hclaim : w.downlink.pool.claim = (pool, some c.link.claim))
    (hlive : c.link.isLive = true)
    (heq : w.act a =
      { w with
        downlink := { w.downlink with pool }
        courses := w.courses ++ [c] }) :
    (w.act a).Tenanted channels := by
  have hsome : w.downlink.pool.claim.2 = some c.link.claim :=
    congrArg Prod.snd hclaim
  have hafter : w.downlink.pool.claim.1 = pool := congrArg Prod.fst hclaim
  obtain ⟨hcapacity, hcount⟩ := h.sound.pool.occupiedCount_claim hsome
  obtain ⟨_, _, _, s, hs, hgen, hocc, _⟩ := h.sound.fresh hclaim
  refine ⟨h.sound.act a, h.counted.act a, ?_, ?_, ?_⟩
  · rw [heq, ← hafter]
    exact hcapacity.trans h.capacity
  · intro k c' hk hlive'
    rw [heq] at hk ⊢
    by_cases hlt : k < w.courses.length
    · rw [List.getElem?_append_left hlt] at hk
      rw [← hafter]
      have hbefore := h.held hk hlive'
      exact (h.sound.pool.sameAt_claim hbefore).holds.trans hbefore
    · rw [List.getElem?_append_right (Nat.not_lt.mp hlt)] at hk
      obtain rfl := List.mem_singleton.mp (List.mem_of_getElem? hk)
      simp [Pool.holds, hs, Slot.isHeldAs, hocc, hgen]
  · rw [heq, ← hafter]
    unfold live
    rw [List.countP_append, List.countP_singleton, hlive, hcount, h.occupied]
    rfl

/-- A request that is no transfer leaves every link its channel. -/
theorem Tenanted.ask (h : w.Tenanted channels) {op : Downlink.Op}
    (hop : op.isTransfer = false) :
    (w.act (.ask op)).Tenanted channels := by
  obtain ⟨htaken, hholds⟩ :=
    Downlink.perform_of_not_isTransfer (d := w.downlink) hop
  have hsound := Downlink.sound_perform h.sound.pool op
  obtain ⟨hcapacity, hcount⟩ := h.sound.pool.occupiedCount_congr hsound htaken
  refine ⟨h.sound.act _, h.counted.act _, hcapacity.trans h.capacity, ?_,
    hcount.trans h.occupied⟩
  intro k c hk hlive
  exact (hholds c.link.claim).trans (h.held hk hlive)

/-- **One act** leaves every link its channel, and takes no other, as long as
nobody but links takes channels or gives them back. -/
theorem Tenanted.act (h : w.Tenanted channels) {a : Act ε}
    (ha : a.isTransfer = false) :
    (w.act a).Tenanted channels := by
  rcases w.act_cases a with ⟨_, hsame⟩ | ⟨k, c, t, stand, hk, hwork, heq⟩ |
    ⟨name, policy, config, now, endpoint, pool, claim, _, hclaim,
      heq⟩ | ⟨op, rfl, _⟩
  · rwa [hsame]
  · exact h.commit hk hwork heq
  · exact h.connect hclaim rfl heq
  · exact h.ask ha

/-- **Any acts in any order** do so. -/
theorem Tenanted.run (h : w.Tenanted channels) {acts : List (Act ε)}
    (hacts : ∀ a ∈ acts, a.isTransfer = false) :
    (w.run acts).Tenanted channels := by
  induction acts generalizing w with
  | nil => exact h
  | cons a acts ih =>
      have ha := h.act (hacts a List.mem_cons_self)
      exact ih ha fun b hb => hacts b (List.mem_cons_of_mem a hb)

/-! ## Room -/

omit [Endpoint ε] in
/-- There are no more links than channels. -/
theorem Tenanted.live_le (h : w.Tenanted channels) : w.live ≤ channels := by
  rw [← h.occupied, ← h.capacity]
  exact w.downlink.pool.occupiedCount_le

omit [Endpoint ε] in
/-- There is a channel for one more link exactly while there are fewer links
than channels. -/
theorem Tenanted.exists_claim_iff (h : w.Tenanted channels) :
    (∃ c, w.downlink.pool.claim.2 = some c) ↔ w.live < channels := by
  rw [h.sound.pool.exists_claim_iff, h.occupied, h.capacity]

omit [Endpoint ε] in
/-- **When all links have ended**, every channel is free and clean and the count
is zero. -/
theorem Tenanted.clear (h : w.Tenanted channels) (hlive : w.live = 0) :
    w.downlink.pool.Cleared ∧ w.active.links = 0 := by
  refine ⟨h.sound.pool.cleared (h.occupied.trans hlive), ?_⟩
  rw [h.counted.count, List.countP_eq_zero]
  intro c hc hactive
  have hover := List.countP_eq_zero.mp hlive c hc
  simp [Course.isActive] at hactive
  simp [Link.isLive, hactive] at hover

end Traffic

end GroundLink
