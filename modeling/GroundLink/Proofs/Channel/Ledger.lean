import GroundLink.Proofs.Channel.Allocation
import Mathlib.Data.List.Nodup

/-!
# The claims that have been issued

`Downlink.issues` is the list of all claims that a run of requests has handed
out.  Which of them is good, and for how long, is a question about that whole
list, not about the pool as it is now.  The link between the two is
`Downlink.Accounted`: the claims on one channel are its generations from the
first to the present one, in that order.  Every request keeps the account
(`Accounted.perform`), since it either issues nothing and leaves all generations
alone, or issues the next generation of one channel (`generation_perform`).

From the account it follows that claims are distinct, that only the last one
issued on a channel can hold it, and that a claim which has lost its channel is
powerless for good: `Downlink.issued_claims_exclusive`.
-/

namespace GroundLink

namespace Pool

/-- How often channel `i` has been occupied. -/
def generation (p : Pool) (i : Nat) : Nat :=
  (p.slots[i]?.map Slot.generation).getD 0

variable {p : Pool}

/-- The generations are read off the slots, one by one. -/
theorem generation_of_map_eq {p' : Pool}
    (h : p'.slots.map Slot.generation = p.slots.map Slot.generation) (j : Nat) :
    p'.generation j = p.generation j := by
  unfold generation
  rw [← List.getElem?_map, h, List.getElem?_map]

/-- A claim is the next generation of its channel. -/
theorem Takes.generation {c : Claim} {p' : Pool} (h : p.Takes c p') :
    c.generation = p.generation c.index + 1 ∧
    p'.generation c.index = c.generation := by
  obtain ⟨s, hs, _, hnext, hs'⟩ := h.slot
  simp [Pool.generation, hs, hs', hnext]

/-- A claim begins no occupation of another channel. -/
theorem Takes.generation_of_ne {c : Claim} {p' : Pool} (h : p.Takes c p')
    {j : Nat} (hj : j ≠ c.index) : p'.generation j = p.generation j := by
  unfold Pool.generation
  rw [h.others.slots j hj]

/-- A claim that holds its channel is the present generation of it. -/
theorem holds_iff {c : Claim} :
    p.holds c = true ↔
      p.isOccupied c.index = true ∧ p.generation c.index = c.generation := by
  unfold holds isOccupied generation Slot.isHeldAs
  cases p.slots[c.index]? <;> simp

/-- The present generation of an occupied channel holds it. -/
theorem holds_current {i : Nat} (h : p.isOccupied i = true) :
    p.holds ⟨i, p.generation i⟩ = true :=
  holds_iff.mpr ⟨h, rfl⟩

end Pool

namespace Downlink

variable {d : Downlink}

/-- Only a claim is answered with a claim. -/
theorem claim?_eq_none {op : Op} (h : op ≠ .claim) :
    (d.perform op).2.claim? = none := by
  cases op with
  | claim => exact absurd rfl h
  | _ => rfl

/-- What does not claim leaves every generation alone. -/
theorem generation_perform_of_ne (h : d.pool.Sound) {op : Op}
    (hop : op ≠ .claim) (j : Nat) :
    (d.perform op).1.pool.generation j = d.pool.generation j := by
  refine Pool.generation_of_map_eq ?_ j
  cases hout : d.outgoing op with
  | some bytes =>
      rw [pool_perform_of_outgoing hout]
      simp [Pool.publish]
  | none =>
      obtain ⟨i, f, hslots, hbecame⟩ := slots_perform h hout
      rw [hslots]
      apply Pool.map_modify_of_eq
      intro s hs
      have hs' := hbecame s hs
      generalize f s = s' at hs'
      cases hs' with
      | occupied hclaim _ => exact absurd hclaim hop
      | kept => rfl
      | vacated => rfl
      | owned name => rfl
      | flagged active => rfl
      | drained _ => rfl

/-- **A request** issues the next generation of one channel, or it issues
nothing and leaves every generation alone. -/
theorem generation_perform (h : d.pool.Sound) (op : Op) :
    ((d.perform op).2.claim? = none ∧
        ∀ j, (d.perform op).1.pool.generation j = d.pool.generation j) ∨
      ∃ i, (d.perform op).2.claim? = some ⟨i, d.pool.generation i + 1⟩ ∧
        (d.perform op).1.pool.generation i = d.pool.generation i + 1 ∧
        ∀ j, j ≠ i → (d.perform op).1.pool.generation j =
          d.pool.generation j := by
  by_cases hop : op = .claim
  · subst hop
    cases hc : d.pool.claim.2 with
    | none =>
        refine Or.inl ⟨hc, ?_⟩
        intro j
        exact congrArg (·.generation j) (h.claim_of_none hc)
    | some c =>
        have htakes := h.takes hc
        obtain ⟨hnext, hnow⟩ := htakes.generation
        refine Or.inr ⟨c.index, ?_, hnow.trans hnext, fun j =>
            htakes.generation_of_ne⟩
        rw [← hnext]
        exact hc
  · exact Or.inl ⟨claim?_eq_none hop, generation_perform_of_ne h hop⟩

/-! ## The account -/

/-- The claims in `cs` on each channel are its generations so far, in order, and
a channel that is occupied has had one. -/
structure Accounted (d : Downlink) (cs : List Claim) : Prop where
  ledger : ∀ i, cs.filter (·.index == i) =
    (List.range (d.pool.generation i)).map fun n => ⟨i, n + 1⟩
  begun : ∀ i, d.pool.isOccupied i = true → 0 < d.pool.generation i

variable {cs : List Claim}

/-- A new pool has issued no claims. -/
theorem Accounted.create? {channels queueCapacity : Nat}
    (h : Pool.create? channels queueCapacity = some d.pool) :
    d.Accounted [] := by
  have hnew : ∀ s ∈ d.pool.slots, s.generation = 0 ∧ s.occupied = false := by
    unfold Pool.create? at h
    split at h
    · rw [← Option.some.inj h]
      simp
    · obtain ⟨queue, _, hpool⟩ := Option.map_eq_some_iff.mp h
      rw [← hpool]
      intro s hs
      obtain rfl := List.eq_of_mem_replicate hs
      exact ⟨rfl, rfl⟩
  refine ⟨?_, ?_⟩
  · intro i
    have hzero : d.pool.generation i = 0 := by
      unfold Pool.generation
      cases hs : d.pool.slots[i]? with
      | none => rfl
      | some s => exact (hnew s (List.mem_of_getElem? hs)).1
    simp [hzero]
  · intro i hocc
    obtain ⟨s, hs, hocc⟩ := Pool.isOccupied_eq_true hocc
    rw [(hnew s (List.mem_of_getElem? hs)).2] at hocc
    cases hocc

/-- Whoever occupies a channel has had it before, or its generation has moved
on. -/
theorem generation_of_isOccupied (h : d.pool.Sound) (op : Op) {i : Nat}
    (hocc : (d.perform op).1.pool.isOccupied i = true) :
    d.pool.isOccupied i = true ∨ 0 < (d.perform op).1.pool.generation i := by
  obtain ⟨s', hs', hocc'⟩ := Pool.isOccupied_eq_true hocc
  have hlt : i < d.pool.slots.length := by
    have := (List.getElem?_eq_some_iff.mp hs').1
    rwa [← Pool.capacity, capacity_perform h op, Pool.capacity] at this
  obtain ⟨s'', hs'', hlater⟩ :=
    later_perform h op i _ (List.getElem?_eq_getElem hlt)
  obtain rfl : s'' = s' := Option.some.inj (hs''.symm.trans hs')
  by_cases hgen : s''.generation = d.pool.slots[i].generation
  · apply Or.inl
    rw [Pool.isOccupied_eq (List.getElem?_eq_getElem hlt)]
    exact hlater.occupied hgen hocc'
  · have hle := hlater.generation
    have hpos : 0 < s''.generation := by omega
    exact Or.inr (by simpa [Pool.generation, hs''] using hpos)

/-- A claim that is issued goes on the account, and nothing else does. -/
theorem Accounted.perform (h : d.Accounted cs) (hd : d.pool.Sound) (op : Op) :
    (d.perform op).1.Accounted (cs ++ (d.perform op).2.claim?.toList) := by
  refine ⟨?_, ?_⟩
  · intro i
    rcases generation_perform hd op with
        ⟨hnone, hsame⟩ | ⟨k, hsome, hnext, hsame⟩
    · rw [hnone, hsame]
      simpa using h.ledger i
    · rw [hsome, List.filter_append, h.ledger]
      by_cases hik : i = k
      · subst hik
        simp [hnext, List.range_succ]
      · simp [hsame i hik, Ne.symm hik]
  · intro i hocc
    rcases generation_of_isOccupied hd op hocc with hbefore | hpos
    · have hpos := h.begun i hbefore
      rcases generation_perform hd op with ⟨_, hsame⟩ | ⟨k, _, hnext, hsame⟩
      · rwa [hsame]
      · by_cases hik : i = k
        · subst hik
          omega
        · rwa [hsame i hik]
    · exact hpos

/-- The account goes on over a run of requests. -/
theorem Accounted.run (h : d.Accounted cs) (hd : d.pool.Sound) (ops : List Op) :
    (d.run ops).Accounted (cs ++ d.issues ops) := by
  induction ops generalizing d cs with
  | nil => simpa [issues] using h
  | cons op ops ih =>
      have hstep := ih (h.perform hd op) (sound_perform hd op)
      rwa [List.append_assoc] at hstep

/-! ## What the account says -/

/-- The claims that have been issued are those of the generations so far. -/
theorem Accounted.mem_iff (h : d.Accounted cs) (c : Claim) :
    c ∈ cs ↔ 0 < c.generation ∧ c.generation ≤ d.pool.generation c.index := by
  have hfilter : c ∈ cs ↔ c ∈ cs.filter (·.index == c.index) := by simp
  rw [hfilter, h.ledger, List.mem_map]
  constructor
  · rintro ⟨n, hn, hc⟩
    have hlt := List.mem_range.mp hn
    have hgen : n + 1 = c.generation := congrArg Claim.generation hc
    omega
  · rintro ⟨hpos, hle⟩
    refine ⟨c.generation - 1, List.mem_range.mpr (by omega), ?_⟩
    have hback : c.generation - 1 + 1 = c.generation := by omega
    rw [hback]

/-- No claim is issued twice. -/
theorem Accounted.nodup (h : d.Accounted cs) : cs.Nodup := by
  apply List.nodup_iff_count_le_one.mpr
  intro c
  have hcount : (cs.filter (·.index == c.index)).count c = cs.count c :=
    List.count_filter (by simp)
  rw [← hcount, h.ledger]
  refine List.nodup_iff_count_le_one.mp ?_ c
  apply List.nodup_range.map
  intro m n hmn
  simpa using hmn

/-- A claim that holds its channel has been issued. -/
theorem Accounted.mem_of_holds (h : d.Accounted cs) {c : Claim}
    (hc : d.pool.holds c = true) :
    c ∈ cs := by
  obtain ⟨hocc, hgen⟩ := Pool.holds_iff.mp hc
  have hpos := h.begun c.index hocc
  exact (h.mem_iff c).mpr ⟨by omega, by omega⟩

/-- The claim that holds a channel is the last that was issued on it. -/
theorem Accounted.getLast?_of_holds (h : d.Accounted cs) {c : Claim}
    (hc : d.pool.holds c = true) :
    (cs.filter (·.index == c.index)).getLast? = some c := by
  obtain ⟨hocc, hgen⟩ := Pool.holds_iff.mp hc
  have hpos := h.begun c.index hocc
  obtain ⟨n, hn⟩ : ∃ n, c.generation = n + 1 := ⟨c.generation - 1, by omega⟩
  rw [h.ledger, hgen, hn, List.range_succ]
  simp [← hn]

/-- A claim that was issued and does not hold its channel never holds it
again. -/
theorem Accounted.lost (h : d.Accounted cs) (hd : d.pool.Sound) {c : Claim}
    (hc : c ∈ cs) (hlost : d.pool.holds c = false) (ops : List Op) :
    (d.run ops).pool.holds c = false := by
  have hissued : d.pool.Issued c := by
    obtain ⟨hpos, hle⟩ := (h.mem_iff c).mp hc
    cases hs : d.pool.slots[c.index]? with
    | none =>
        simp [Pool.generation, hs] at hle
        omega
    | some s => exact ⟨s, hs, by simpa [Pool.generation, hs] using hle⟩
  have hstale : d.pool.Stale c := ⟨hissued, hlost⟩
  exact (hstale.of_later (later_run hd ops)).2

/-- Once `issued` are the claims handed out so far, each occupation has one
holder, and a claim whose occupation is over is worth nothing. -/
structure Exclusive (issued : List Claim) (d : Downlink) : Prop where
  /-- No claim is handed out twice. -/
  distinct : issued.Nodup
  /-- A claim that holds its channel was handed out. -/
  known : ∀ c, d.pool.holds c = true → c ∈ issued
  /-- Two claims never hold one channel. -/
  unique : ∀ c c', c.index = c'.index → d.pool.holds c = true →
    d.pool.holds c' = true → c = c'
  /-- The claim that holds a channel is the last that was handed out on it. -/
  latest : ∀ c, d.pool.holds c = true →
    (issued.filter (·.index == c.index)).getLast? = some c
  /-- Whatever is occupied, somebody has the claim to it. -/
  holder : ∀ i, d.pool.isOccupied i = true ↔ ∃ c ∈ issued, c.index = i ∧
    d.pool.holds c = true
  /-- A claim that has lost its channel never holds it again. -/
  lost : ∀ c ∈ issued, d.pool.holds c = false → ∀ ops,
    (d.run ops).pool.holds c = false
  /-- A claim that does not hold its channel changes nothing. -/
  powerless : ∀ c, d.pool.holds c = false →
    d.perform (.releaseClaim c) = (d, .changed false) ∧
      ∀ active, d.perform (.setClaimActive c active) = (d, .changed false)
  /-- A claim that holds its channel gives that one back, and no other. -/
  releases : ∀ c, d.pool.holds c = true →
    (d.perform (.releaseClaim c)).2 = .changed true ∧
      d.pool.Frees c.index (d.perform (.releaseClaim c)).1.pool

/-- From the account it follows that channels are held exclusively. -/
theorem Accounted.exclusive (h : d.Accounted cs) (hd : d.pool.Sound) :
    d.Exclusive cs where
  distinct := h.nodup
  known := fun _ => h.mem_of_holds
  unique := fun _ _ hindex hc hc' => Pool.holds_unique hc hc' hindex
  latest := fun _ => h.getLast?_of_holds
  holder := by
    intro i
    constructor
    · intro hocc
      have hheld := Pool.holds_current hocc
      exact ⟨⟨i, d.pool.generation i⟩, h.mem_of_holds hheld, rfl, hheld⟩
    · rintro ⟨c, _, rfl, hheld⟩
      exact (Pool.holds_iff.mp hheld).1
  lost := fun _ hc hlost ops => h.lost hd hc hlost ops
  powerless := by
    intro c hnot
    have hkept : d.pool.releaseClaim c = (d.pool, false) := by
      unfold Pool.releaseClaim
      rw [Pool.free_eq, Pool.isFreeable_claim, hnot]
      rfl
    refine ⟨by simp [Downlink.perform, hkept], ?_⟩
    intro active
    simp [Downlink.perform, Pool.setClaimActive, hnot]
  releases := by
    intro c hheld
    have hfree : d.pool.isFreeable c.index (some c.generation) = true := by
      rwa [Pool.isFreeable_claim]
    refine ⟨?_, hd.frees hfree⟩
    simp [Downlink.perform, Pool.releaseClaim, Pool.free_eq, hfree]

/-- **Claims are exclusive, and a stale one stays stale**, after any run of
requests to a new downlink. -/
theorem issued_claims_exclusive {channels queueCapacity : Nat}
    (hcreate : Pool.create? channels queueCapacity = some d.pool)
    (ops : List Op) :
    (d.run ops).Exclusive (d.issues ops) := by
  have hd : d.pool.Sound := .create? hcreate
  have haccount : (d.run ops).Accounted ([] ++ d.issues ops) :=
    (Accounted.create? hcreate).run hd ops
  exact haccount.exclusive (sound_run hd ops)

/-- Channel 0 goes from its first holder to the next one, and the first claim is
over. -/
theorem pair_claims_exclusive :
    let ops : List Op :=
      [.claim, .claim, .release 0, .claim, .releaseClaim ⟨0, 1⟩,
        .setClaimActive ⟨0, 1⟩ true]
    Pool.create? 2 8 = some (pair 8).pool ∧
      ((pair 8).run ops).Exclusive ((pair 8).issues ops) ∧
      (pair 8).issues ops = [⟨0, 1⟩, ⟨1, 1⟩, ⟨0, 2⟩] ∧
      ((pair 8).run ops).pool.holds ⟨0, 1⟩ = false ∧
      ((pair 8).run ops).pool.holds ⟨0, 2⟩ = true := by
  have hcreate : Pool.create? 2 8 = some (pair 8).pool := rfl
  exact ⟨hcreate, issued_claims_exclusive hcreate _, by decide, by
      decide, by decide⟩

end Downlink

end GroundLink
