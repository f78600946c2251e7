import GroundLink.Proofs.Channel.Occupancy

/-!
# The bytes that wait on a channel

`Pool.waiting` is what waits on one channel, the oldest byte first, and
`Pool.accepted` what the channel takes of bytes that are published, by its own
counter.  Of all that can be asked of a pool

* `waiting_drain` — handing out takes from the front;
* `waiting_publish` — publishing appends what is accepted;
* `waiting_perform` — nothing else changes what waits on a channel, as long as
  the channel stays with whom it is.
-/

namespace GroundLink

/-- The part of published bytes that the slot counts as enqueued. -/
def Slot.accepted (s : Slot) (bs : Bytes) : Bytes :=
  bs.take ((s.offer bs).enqueued - s.enqueued)

/-- **Publishing appends** what the slot accepts. -/
theorem Slot.Sound.toList_offer {s : Slot} (h : s.Sound) (bs : Bytes) :
    (s.offer bs).queue.toList = s.queue.toList ++ s.accepted bs := by
  unfold Slot.accepted Slot.offer
  cases hactive : s.active with
  | false => simp
  | true => simp [h.queue.toList_push]

/-- The bytes that wait on channel `i`, the oldest first. -/
def Pool.waiting (p : Pool) (i : Nat) : Bytes :=
  (p.slots[i]?.map (·.queue.toList)).getD []

/-! ## What is the same on a channel -/

/-- A slot without the name of its owner. -/
def Slot.anonymous (s : Slot) : Slot := { s with owner := none }

namespace Pool

/-- The pools have the same on channel `i`, but perhaps another name. -/
def SameAt (i : Nat) (p p' : Pool) : Prop :=
  p'.slots[i]?.map Slot.anonymous = p.slots[i]?.map Slot.anonymous

variable {i : Nat} {p p' : Pool}

theorem SameAt.refl (i : Nat) (p : Pool) : p.SameAt i p := rfl

/-- What two steps leave the same of a channel stays the same. -/
theorem SameAt.trans {p₁ p₂ p₃ : Pool} (h₁₂ : p₁.SameAt i p₂)
    (h₂₃ : p₂.SameAt i p₃) :
    p₁.SameAt i p₃ := Eq.trans h₂₃ h₁₂

/-- What is the same of a slot under any name is the same. -/
theorem SameAt.map_eq {α : Type} (h : p.SameAt i p') (g : Slot → α)
    (hg : ∀ s, g s.anonymous = g s) :
    p'.slots[i]?.map g = p.slots[i]?.map g := by
  have hsame (o : Option Slot) : o.map g = (o.map Slot.anonymous).map g := by
    cases o with
    | none => rfl
    | some s => simp [hg]
  rw [hsame, hsame p.slots[i]?, h]

/-- The bytes that wait have no name on them. -/
theorem SameAt.waiting (h : p.SameAt i p') : p'.waiting i = p.waiting i :=
  congrArg (·.getD []) (h.map_eq (·.queue.toList) fun _ => rfl)

/-- The flag has no name on it. -/
theorem SameAt.isActive (h : p.SameAt i p') : p'.isActive i = p.isActive i :=
  congrArg (·.getD false) (h.map_eq Slot.active fun _ => rfl)

/-- Whether a claim holds its channel does not depend on the name. -/
theorem SameAt.holds {c : Claim} (h : p.SameAt c.index p') :
    p'.holds c = p.holds c :=
  congrArg (·.getD false) (h.map_eq (·.isHeldAs c.generation) fun _ => rfl)

/-- A change of one channel is nothing to another. -/
theorem sameAt_modify_of_ne (p : Pool) {i j : Nat} (f : Slot → Slot)
    (h : j ≠ i) :
    p.SameAt i (p.modify j f) := by
  unfold SameAt
  rw [getElem?_modify, if_neg h]

/-- A new name changes nothing but the name. -/
theorem sameAt_setOwner (p : Pool) (i j : Nat) (name : String) :
    p.SameAt i (p.setOwner j name) := by
  unfold SameAt setOwner
  rw [getElem?_modify]
  split
  · cases p.slots[i]? with
    | none => rfl
    | some s => cases hocc : s.occupied <;> simp [hocc, Slot.anonymous]
  · rfl

/-- To set a flag or to give a channel back takes a claim that holds it. -/
theorem sameAt_setClaimActive {c : Claim} (h : p.holds c = true → c.index ≠ i)
    (active : Bool) :
    p.SameAt i (p.setClaimActive c active).1 := by
  rw [setClaimActive_eq]
  split
  · next held => exact p.sameAt_modify_of_ne _ (h held)
  · exact .refl i p

/-- A claim gives back the channel that it holds, or none. -/
theorem sameAt_releaseClaim {c : Claim} (h : p.holds c = true → c.index ≠ i) :
    p.SameAt i (p.releaseClaim c).1 := by
  cases held : p.holds c with
  | false =>
      rw [releaseClaim_of_not_holds held]
      exact .refl i p
  | true =>
      unfold releaseClaim
      rw [free_eq, isFreeable_claim, held]
      exact p.sameAt_modify_of_ne _ (h held)

/-- Handing a channel out does not concern whoever holds one. -/
theorem Sound.sameAt_claim (h : p.Sound) {c : Claim} (held : p.holds c = true) :
    p.SameAt c.index p.claim.1 := by
  rcases h.claim_cases with ⟨hnone, _⟩ | ⟨i, s, hs, hfree, _, hsome⟩
  · rw [hnone]
    exact .refl _ p
  · have hne : i ≠ c.index := by
      rintro rfl
      simp [holds, hs, Slot.isHeldAs, hfree] at held
    rw [hsome]
    exact p.sameAt_modify_of_ne _ hne

/-- Giving a channel back does not concern whoever still holds one. -/
theorem sameAt_free {i : Nat} {generation : Option Nat} {c : Claim}
    (held : (p.free i generation).1.holds c = true) :
    p.SameAt c.index (p.free i generation).1 := by
  rw [free_eq] at held ⊢
  by_cases hfree : p.isFreeable i generation = true
  · rw [if_pos hfree] at held ⊢
    by_cases hic : i = c.index
    · -- the channel has been given back, so that nobody holds it
      subst hic
      rw [p.holds_vacated c] at held
      cases held
    · exact p.sameAt_modify_of_ne _ hic
  · rw [if_neg hfree]
    exact .refl _ p

/-! ## What waits -/

/-- The part of published bytes that channel `i` accepts. -/
def accepted (p : Pool) (i : Nat) (bs : Bytes) : Bytes :=
  (p.slots[i]?.map (·.accepted bs)).getD []

/-- What leaves the queue alone leaves alone what waits. -/
theorem waiting_modify (p : Pool) (i j : Nat) {f : Slot → Slot}
    (h : ∀ s, (f s).queue = s.queue) :
    (p.modify i f).waiting j = p.waiting j := by
  unfold waiting
  rw [getElem?_modify]
  split
  · cases p.slots[j]? with
    | none => rfl
    | some s => simp [h]
  · rfl

/-- **Handing out** takes from the front of one channel, and what is left waits
on. -/
theorem Sound.waiting_drain (h : p.Sound) (i n : Nat) :
    p.waiting i = (p.drain i n).2 ++ (p.drain i n).1.waiting i := by
  rw [drain_eq]
  unfold waiting Pool.drain
  rw [getElem?_modify, if_pos rfl]
  cases hs : p.slots[i]? with
  | none => rfl
  | some s => exact ((h.slots s (List.mem_of_getElem? hs)).queue).pop_append n

/-- No more is handed out than was asked for. -/
theorem length_drain_le (p : Pool) (i n : Nat) :
    (p.drain i n).2.length ≤ n := by
  unfold drain
  cases p.slots[i]? with
  | none => exact Nat.zero_le n
  | some s => exact s.queue.length_pop_le n

/-- As much is handed out as was asked for, if there is so much. -/
theorem Sound.length_drain (h : p.Sound) (i n : Nat) :
    (p.drain i n).2.length = min n (p.waiting i).length := by
  unfold waiting Pool.drain
  cases hs : p.slots[i]? with
  | none => simp
  | some s =>
      have hcount := (h.slots s (List.mem_of_getElem? hs)).queue.pop_count n
      simpa [Slot.drain] using hcount

/-- A drain takes no bytes of another channel. -/
theorem waiting_drain_of_ne (p : Pool) {i j : Nat} (n : Nat) (h : i ≠ j) :
    (p.drain i n).1.waiting j = p.waiting j := by
  rw [drain_eq]
  exact (p.sameAt_modify_of_ne _ h).waiting

/-- **Publishing** appends on every channel what the channel accepts. -/
theorem Sound.waiting_publish (h : p.Sound) (bs : Bytes) (i : Nat) :
    (p.publish bs).1.waiting i = p.waiting i ++ p.accepted i bs := by
  unfold waiting accepted Pool.publish
  rw [List.getElem?_map]
  cases hs : p.slots[i]? with
  | none => rfl
  | some s => exact (h.slots s (List.mem_of_getElem? hs)).toList_offer bs

/-- No bytes are lost with a change of name. -/
theorem waiting_setOwner (p : Pool) (i : Nat) (name : String) (j : Nat) :
    (p.setOwner i name).waiting j = p.waiting j := by
  refine p.waiting_modify i j ?_
  intro s
  split <;> rfl

/-- No bytes are lost when a channel is set inactive, or active again. -/
theorem waiting_setActive (p : Pool) (i : Nat) (active : Bool) (j : Nat) :
    (p.setActive i active).1.waiting j = p.waiting j := by
  rcases setActive_eq p i active with heq | ⟨heq, _⟩
  · rw [heq]
  · rw [heq]
    exact p.waiting_modify i j (fun _ => rfl)

/-- No bytes are lost when a link sets its flag. -/
theorem waiting_setClaimActive (p : Pool) (c : Claim) (active : Bool)
    (j : Nat) :
    (p.setClaimActive c active).1.waiting j = p.waiting j := by
  rw [setClaimActive_eq]
  split
  · exact p.waiting_modify c.index j (fun _ => rfl)
  · rfl

/-- A free channel has no bytes, so that a claim finds none and loses none. -/
theorem Sound.waiting_claim (h : p.Sound) (j : Nat) :
    p.claim.1.waiting j = p.waiting j := by
  rcases h.claim_cases with ⟨hnone, _⟩ | ⟨i, s, _, _, _, hsome⟩
  · rw [hnone]
  · rw [hsome]
    exact p.waiting_modify i j (fun _ => rfl)

/-- Two claims that hold one channel are the same. -/
theorem holds_unique {a b : Claim} (ha : p.holds a = true)
    (hb : p.holds b = true) (hindex : a.index = b.index) : a = b := by
  unfold holds at ha hb
  rw [hindex] at ha
  cases hs : p.slots[b.index]? with
  | none => simp [hs] at ha
  | some s =>
      simp only [hs, Option.map_some, Option.getD_some, Slot.isHeldAs,
        Bool.and_eq_true, beq_iff_eq] at ha hb
      cases a
      cases b
      simp_all

end Pool

/-- What channel `i` accepts of what a request sends out. -/
def Downlink.accepted (d : Downlink) (i : Nat) (op : Downlink.Op) : Bytes :=
  match d.outgoing op with
  | some bytes => d.pool.accepted i bytes
  | none => []

/-- **A request** leaves alone what waits on a channel, but for what the channel
accepts, as long as nobody is handed bytes of it and the channel is still
held. -/
theorem Downlink.waiting_perform {d : Downlink} (h : d.pool.Sound) {op : Op}
    {c : Claim} (hdrain : ∀ n, op ≠ .drain c.index n)
    (held : (d.perform op).1.pool.holds c = true) :
    (d.perform op).1.pool.waiting c.index = d.pool.waiting c.index ++
      d.accepted c.index op := by
  rw [pool_perform] at held ⊢
  unfold accepted
  split at held
  · next bytes hout =>
      rw [hout]
      exact h.waiting_publish bytes c.index
  · next hout =>
      rw [hout, List.append_nil]
      exact h.waiting_claim c.index
  · next hout =>
      rw [hout, List.append_nil]
      exact (Pool.sameAt_free held).waiting
  · next hout =>
      rw [hout, List.append_nil]
      exact (Pool.sameAt_free held).waiting
  · next hout =>
      rw [hout, List.append_nil]
      exact d.pool.waiting_setOwner ..
  · next hout =>
      rw [hout, List.append_nil]
      exact d.pool.waiting_setActive ..
  · next hout =>
      rw [hout, List.append_nil]
      exact d.pool.waiting_setClaimActive ..
  · next i n hout =>
      rw [hout, List.append_nil]
      refine d.pool.waiting_drain_of_ne n ?_
      intro hi
      exact hdrain n (by rw [hi])
  · next hout =>
      rw [hout, List.append_nil]

end GroundLink
