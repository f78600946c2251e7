import GroundLink.Proofs.Channel.Waiting

/-!
# Who decides whether a channel is active

The flag of a channel is set by those who ask for it, by channel or by claim,
and it goes down when the channel is given back.  Nothing else that can be asked
of a downlink changes it (`isActive_perform`); a channel that has just been
taken is inactive (`Sound.not_isActive_claim`).
-/

namespace GroundLink

namespace Pool

variable {p : Pool}

/-- What leaves the flags alone leaves alone which channels are active. -/
theorem isActive_modify (p : Pool) (i j : Nat) {f : Slot → Slot}
    (h : ∀ s, (f s).active = s.active) :
    (p.modify i f).isActive j = p.isActive j := by
  unfold isActive
  rw [getElem?_modify]
  split
  · cases p.slots[j]? with
    | none => rfl
    | some s => simp [h]
  · rfl

/-- A drain takes bytes and leaves the flag. -/
theorem isActive_drain (p : Pool) (i n j : Nat) :
    (p.drain i n).1.isActive j = p.isActive j := by
  rw [drain_eq]
  exact p.isActive_modify i j fun _ => rfl

/-- Publishing looks at the flags and sets none. -/
theorem isActive_publish (p : Pool) (bs : Bytes) (i : Nat) :
    (p.publish bs).1.isActive i = p.isActive i := by
  unfold isActive Pool.publish
  rw [List.getElem?_map]
  cases p.slots[i]? with
  | none => rfl
  | some s => simp

/-- A channel that is taken was not active before, and is not yet. -/
theorem Sound.isActive_claim (h : p.Sound) (i : Nat) :
    p.claim.1.isActive i = p.isActive i := by
  rcases h.claim_cases with ⟨hnone, _⟩ | ⟨j, s, _, _, _, hsome⟩
  · rw [hnone]
  · rw [hsome]
    exact p.isActive_modify j i fun _ => rfl

/-- **A channel that has just been taken** is inactive. -/
theorem Sound.not_isActive_claim (h : p.Sound) {c : Claim}
    (hc : p.claim.2 = some c) :
    p.claim.1.isActive c.index = false := by
  rw [h.isActive_claim]
  rcases h.claim_cases with ⟨hnone, _⟩ | ⟨i, s, hs, hfree, _, hsome⟩
  · rw [hnone] at hc
    cases hc
  · rw [hsome] at hc
    obtain rfl := Option.some.inj hc
    have hslot := h.slots s (List.mem_of_getElem? hs)
    simp [isActive, hs, (hslot.clean hfree).1]

/-- **The holder** of a channel sets its flag. -/
theorem isActive_setClaimActive {c : Claim} (held : p.holds c = true)
    (active : Bool) :
    (p.setClaimActive c active).1.isActive c.index = active := by
  have hslot : p.slots[c.index]?.isSome = true := by
    unfold holds at held
    cases hs : p.slots[c.index]? with
    | none => simp [hs] at held
    | some s => rfl
  obtain ⟨s, hs⟩ := Option.isSome_iff_exists.mp hslot
  rw [setClaimActive_eq, if_pos held]
  simp [isActive, hs]

/-- Nobody who does not hold the channel can use a claim to set its flag. -/
theorem sameAt_setClaimActive_of_ne {a c : Claim} (h : a ≠ c)
    (held : p.holds c = true) (active : Bool) :
    p.SameAt c.index (p.setClaimActive a active).1 := by
  apply sameAt_setClaimActive
  intro held' hindex
  exact h (holds_unique held' held hindex)

/-- The flag of one channel is nothing to another. -/
theorem sameAt_setActive_of_ne {i j : Nat} (h : i ≠ j) (p : Pool)
    (active : Bool) :
    p.SameAt j (p.setActive i active).1 := by
  rcases setActive_eq p i active with heq | ⟨heq, _⟩
  · rw [heq]
    exact .refl j p
  · rw [heq]
    exact p.sameAt_modify_of_ne _ h

end Pool

/-- **A request** does not change whether a channel is active, as long as it
does not set the flag and the channel stays with its holder. -/
theorem Downlink.isActive_perform {d : Downlink} (h : d.pool.Sound) {op : Op}
    {c : Claim} (hset : ∀ active, op ≠ .setActive c.index active)
    (hclaim : ∀ active, op ≠ .setClaimActive c active)
    (held : d.pool.holds c = true)
    (held' : (d.perform op).1.pool.holds c = true) :
    (d.perform op).1.pool.isActive c.index = d.pool.isActive c.index := by
  rw [pool_perform] at held' ⊢
  split at held'
  · exact d.pool.isActive_publish _ _
  · exact h.isActive_claim _
  · exact (Pool.sameAt_free held').isActive
  · exact (Pool.sameAt_free held').isActive
  · exact (d.pool.sameAt_setOwner _ _ _).isActive
  · next i active _ =>
      refine (Pool.sameAt_setActive_of_ne ?_ d.pool active).isActive
      rintro rfl
      exact hset active rfl
  · next a active _ =>
      refine (Pool.sameAt_setClaimActive_of_ne ?_ held active).isActive
      rintro rfl
      exact hclaim active rfl
  · exact d.pool.isActive_drain _ _ _
  · rfl

end GroundLink
