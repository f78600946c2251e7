import GroundLink.Channel.Downlink
import GroundLink.Proofs.Channel.Fifo

/-!
# Who has a channel

Whether a channel is taken stands in two places, the mark that a search looks at
and the slot itself.  `Pool.Sound` says that the two agree and that a free
channel is clean: inactive, without bytes and without an owner.  Every request
to a downlink keeps that (`Downlink.sound_perform`), and so does everything that
a link asks of the pool.

Every operation but publishing changes one slot and nothing else, so that each
is given here as a `Pool.modify`: `drain_eq`, `claim_cases`, `free_eq`.

A claim that has been issued never names an occupation to come.  `Pool.Issued`
keeps that, and `Pool.Stale` adds that the claim's own occupation is over;
nothing that happens to a pool makes a stale claim good again
(`Stale.of_later`).
-/

namespace GroundLink

namespace Slot

/-- The queue is well formed, and a free slot is clean. -/
structure Sound (s : Slot) : Prop where
  queue : s.queue.WellFormed
  clean : s.occupied = false → s.active = false ∧ s.queue.toList = [] ∧
    s.owner = none

variable {s : Slot}

/-- A slot that has just been taken is sound: nothing is asked of it yet. -/
theorem Sound.occupy (h : s.Sound) : s.occupy.Sound :=
  ⟨h.queue, fun hfree => by simp [Slot.occupy] at hfree⟩

/-- Vacating empties the queue and takes the owner and the flag away, which is
all that a free slot is asked for. -/
theorem Sound.vacate (h : s.Sound) : s.vacate.Sound :=
  ⟨h.queue.reset, fun _ => ⟨rfl, Queue.toList_reset s.queue, rfl⟩⟩

/-- Only an active slot takes in bytes, and an active slot is occupied. -/
theorem Sound.offer (h : s.Sound) (bs : Bytes) : (s.offer bs).Sound := by
  unfold Slot.offer
  split
  · next hactive =>
      refine ⟨h.queue.push bs, ?_⟩
      intro hfree
      have := (h.clean hfree).1
      simp [hactive] at this
  · exact h

/-- What a drain leaves of an empty queue is empty. -/
theorem Sound.drain (h : s.Sound) (n : Nat) : (s.drain n).1.Sound := by
  refine ⟨h.queue.pop n, ?_⟩
  intro hfree
  obtain ⟨hactive, hempty, howner⟩ := h.clean hfree
  refine ⟨hactive, ?_, howner⟩
  have hsplit := h.queue.pop_append n
  rw [hempty] at hsplit
  exact (List.append_eq_nil_iff.mp hsplit.symm).2

/-- An owner is written into occupied slots only. -/
theorem Sound.own (h : s.Sound) (name : String) :
    (if s.occupied then { s with owner := some name } else s : Slot).Sound := by
  split
  · next hocc => exact ⟨h.queue, fun hfree => by simp [hocc] at hfree⟩
  · exact h

/-- The flag of a slot may be set as long as only occupied slots are flagged. -/
theorem Sound.flag (h : s.Sound) {active : Bool}
    (hocc : active = true → s.occupied = true) :
    ({ s with active } : Slot).Sound := by
  refine ⟨h.queue, ?_⟩
  intro hfree
  have hfree' : s.occupied = false := hfree
  refine ⟨?_, (h.clean hfree').2⟩
  cases active with
  | false => rfl
  | true => simp [hocc rfl] at hfree'

/-! ## What can become of an occupation -/

/-- `s'` is what has become of `s`: the occupations are counted on, and within
one occupation a slot that has been given back stays free. -/
structure Later (s s' : Slot) : Prop where
  generation : s.generation ≤ s'.generation
  occupied : s'.generation = s.generation → s'.occupied = true →
    s.occupied = true

theorem Later.refl (s : Slot) : s.Later s := ⟨Nat.le_refl _, fun _ h => h⟩

/-- Nothing is asked of a change that keeps the generation and the occupation.
-/
theorem Later.of_eq {s' : Slot} (hgen : s'.generation = s.generation)
    (hocc : s'.occupied = s.occupied) : s.Later s' :=
  ⟨Nat.le_of_eq hgen.symm, fun _ h => hocc ▸ h⟩

/-- Where the generation is the same at both ends, it was the same in between,
and so a slot given back in between was never taken again. -/
theorem Later.trans {s₁ s₂ s₃ : Slot} (h₁₂ : s₁.Later s₂) (h₂₃ : s₂.Later s₃) :
    s₁.Later s₃ := by
  refine ⟨Nat.le_trans h₁₂.generation h₂₃.generation, ?_⟩
  intro hgen hocc
  have hle₁ := h₁₂.generation
  have hle₂ := h₂₃.generation
  exact h₁₂.occupied (by omega) (h₂₃.occupied (by omega) hocc)

/-- Taking a slot counts its generation on. -/
theorem later_occupy (s : Slot) : s.Later s.occupy := by
  constructor
  · simp [Slot.occupy]
  · intro hgen
    simp [Slot.occupy] at hgen

/-- Giving a slot back begins no occupation. -/
theorem later_vacate (s : Slot) : s.Later s.vacate :=
  ⟨Nat.le_refl _, fun _ hocc => by simp [Slot.vacate] at hocc⟩

end Slot

namespace Pool

/-- The marks agree with the slots, and every slot is sound. -/
structure Sound (p : Pool) : Prop where
  marks : p.taken = p.slots.map Slot.occupied
  slots : ∀ s ∈ p.slots, s.Sound

/-- Every occupation that the claim could name has begun by now. -/
def Issued (p : Pool) (c : Claim) : Prop :=
  ∃ s, p.slots[c.index]? = some s ∧ c.generation ≤ s.generation

/-- The claim was issued, and its occupation is over. -/
def Stale (p : Pool) (c : Claim) : Prop := p.Issued c ∧ p.holds c = false

/-- `p'` is what has become of `p`, slot by slot. -/
def Later (p p' : Pool) : Prop :=
  ∀ (i : Nat) (s : Slot), p.slots[i]? = some s → ∃ s', p'.slots[i]? = some s' ∧
    s.Later s'

variable {p : Pool}

/-! ## One slot changes -/

@[simp] theorem getElem?_modify (p : Pool) (i j : Nat) (f : Slot → Slot) :
    (p.modify i f).slots[j]? =
      if i = j then p.slots[j]?.map f else p.slots[j]? := by
  simp only [modify, List.getElem?_modify]
  split <;> cases p.slots[j]? <;> rfl

/-- A projection that the change of one slot leaves alone stays as it is all
along the list. -/
theorem map_modify_of_eq {α : Type} {l : List Slot} {i : Nat} {f : Slot → Slot}
    {g : Slot → α} (h : ∀ s, l[i]? = some s → g (f s) = g s) :
    (l.modify i f).map g = l.map g := by
  apply List.ext_getElem?
  intro j
  rw [List.getElem?_map, List.getElem?_map, List.getElem?_modify]
  cases hj : l[j]? with
  | none => rfl
  | some s =>
      by_cases hij : i = j
      · subst hij
        simp [h s hj]
      · simp [hij]

/-- A change that gives one slot a known value under `g` is a `set` of the list
of these values. -/
theorem map_modify_eq_set {α : Type} {l : List Slot} {i : Nat} {f : Slot → Slot}
    {g : Slot → α} {b : α} (h : ∀ s, g (f s) = b) :
    (l.modify i f).map g = (l.map g).set i b := by
  apply List.ext_getElem?
  intro j
  rw [List.getElem?_map, List.getElem?_modify, List.getElem?_set,
    List.getElem?_map]
  by_cases hij : i = j
  · subst hij
    cases hi : l[i]? with
    | none =>
        have := List.getElem?_eq_none_iff.mp hi
        simp [Nat.not_lt.mpr this]
    | some s =>
        have := (List.getElem?_eq_some_iff.mp hi).1
        simp [this, h]
  · cases l[j]? <;> simp [hij]

/-- A slot of the changed pool stood there before, or it is the one changed. -/
theorem mem_modify {p : Pool} {i : Nat} {f : Slot → Slot} {s : Slot}
    (h : s ∈ (p.modify i f).slots) :
    s ∈ p.slots ∨ ∃ s₀, p.slots[i]? = some s₀ ∧ s = f s₀ := by
  obtain ⟨j, hj⟩ := List.mem_iff_getElem?.mp h
  rw [getElem?_modify] at hj
  split at hj
  · next hij =>
      subst hij
      obtain ⟨s₀, hs₀, rfl⟩ := Option.map_eq_some_iff.mp hj
      exact Or.inr ⟨s₀, hs₀, rfl⟩
  · exact Or.inl (List.mem_iff_getElem?.mpr ⟨j, hj⟩)

/-- A change that neither takes a channel nor gives it back keeps the pool
sound. -/
theorem Sound.modify (h : p.Sound) {i : Nat} {f : Slot → Slot}
    (hocc : ∀ s, (f s).occupied = s.occupied)
    (hsound : ∀ s, p.slots[i]? = some s → s.Sound → (f s).Sound) :
    (p.modify i f).Sound := by
  refine ⟨?_, ?_⟩
  · have hmap :=
      map_modify_of_eq (l := p.slots) (i := i) (f := f) (g := Slot.occupied)
      (fun s _ => hocc s)
    exact h.marks.trans hmap.symm
  · intro s hs
    rcases mem_modify hs with hs | ⟨s₀, hs₀, rfl⟩
    · exact h.slots s hs
    · exact hsound s₀ hs₀ (h.slots s₀ (List.mem_of_getElem? hs₀))

theorem Later.refl (p : Pool) :
    p.Later p := fun _ s hs => ⟨s, hs, Slot.Later.refl s⟩

/-- A slot is followed through both changes. -/
theorem Later.trans {p₁ p₂ p₃ : Pool} (h₁₂ : p₁.Later p₂) (h₂₃ : p₂.Later p₃) :
    p₁.Later p₃ := by
  intro i s hs
  obtain ⟨s', hs', hlater⟩ := h₁₂ i s hs
  obtain ⟨s'', hs'', hlater'⟩ := h₂₃ i s' hs'
  exact ⟨s'', hs'', hlater.trans hlater'⟩

/-- For a change of one slot it is enough to look at that slot. -/
theorem later_modify (p : Pool) (i : Nat) {f : Slot → Slot}
    (hf : ∀ s : Slot, s.Later (f s)) :
    p.Later (p.modify i f) := by
  intro j s hs
  by_cases hij : i = j
  · exact ⟨f s, by simp [hij, hs], hf s⟩
  · exact ⟨s, by simp [hij, hs], Slot.Later.refl s⟩

/-- **A stale claim stays stale.** -/
theorem Stale.of_later {p' : Pool} {c : Claim} (h : p.Stale c)
    (hlater : p.Later p') :
    p'.Stale c := by
  obtain ⟨⟨s, hs, hle⟩, hnot⟩ := h
  obtain ⟨s', hs', hgen, hover⟩ := hlater c.index s hs
  refine ⟨⟨s', hs', Nat.le_trans hle hgen⟩, ?_⟩
  simp only [holds, hs, Option.map_some, Option.getD_some, Slot.isHeldAs]
    at hnot
  simp only [holds, hs', Option.map_some, Option.getD_some, Slot.isHeldAs]
  cases hocc : s'.occupied with
  | false => rfl
  | true =>
      by_cases heq : s'.generation = c.generation
      · have hsame : s'.generation = s.generation := by omega
        have hold : s.generation = c.generation := by omega
        simp [hover hsame hocc, hold] at hnot
      · simp [heq]

/-- Generations only grow, so that an issued claim stays issued. -/
theorem Issued.of_later {p' : Pool} {c : Claim} (h : p.Issued c)
    (hlater : p.Later p') :
    p'.Issued c := by
  obtain ⟨s, hs, hle⟩ := h
  obtain ⟨s', hs', hgen, _⟩ := hlater c.index s hs
  exact ⟨s', hs', Nat.le_trans hle hgen⟩

/-- What leaves the occupations alone leaves every claim as good as it was. -/
theorem holds_modify (p : Pool) (c : Claim) (i : Nat) {f : Slot → Slot}
    (hgen : ∀ s, (f s).generation = s.generation)
    (hocc : ∀ s, (f s).occupied = s.occupied) :
    (p.modify i f).holds c = p.holds c := by
  unfold holds
  rw [getElem?_modify]
  split
  · cases p.slots[c.index]? with
    | none => rfl
    | some s => simp [Slot.isHeldAs, hgen, hocc]
  · rfl

/-- The name of the owner has no part in holding a channel. -/
theorem holds_setOwner (p : Pool) (i : Nat) (name : String) (c : Claim) :
    (p.setOwner i name).holds c = p.holds c := by
  refine p.holds_modify c i ?_ ?_
  · intro s
    split <;> rfl
  · intro s
    split <;> rfl

/-- Nobody holds a channel that has been given back. -/
theorem holds_vacated (p : Pool) (c : Claim) :
    ((p.modify c.index Slot.vacate).unmark c.index).holds c = false := by
  have hslots : ((p.modify c.index Slot.vacate).unmark c.index).slots =
      (p.modify c.index Slot.vacate).slots := rfl
  unfold holds
  rw [hslots, getElem?_modify, if_pos rfl]
  cases p.slots[c.index]? <;> rfl

/-! ## Each operation as a change of one slot -/

/-- A drain changes the one slot, as every operation but publishing does. -/
theorem drain_eq (p : Pool) (i n : Nat) :
    (p.drain i n).1 = p.modify i fun s => (s.drain n).1 := by
  unfold drain
  cases hi : p.slots[i]? with
  | none =>
      have hlen := List.getElem?_eq_none_iff.mp hi
      simp [modify, List.modify_eq_self hlen]
  | some s =>
      obtain ⟨hlt, hget⟩ := List.getElem?_eq_some_iff.mp hi
      have hmodify : p.slots.modify i (fun s => (s.drain n).1) =
          p.slots.set i (s.drain n).1 := by
        apply List.ext_getElem?
        intro j
        rw [List.getElem?_modify, List.getElem?_set]
        by_cases hij : i = j
        · subst hij
          simp [hlt, hget]
        · simp [hij]
      simp [Pool.modify, hmodify]

/-- `setActive` leaves the pool as it is or sets the flag of one slot, and sets
it to true for an occupied slot only. -/
theorem setActive_eq (p : Pool) (i : Nat) (active : Bool) :
    (p.setActive i active).1 = p ∨
      (p.setActive i active).1 = p.modify i ({ · with active }) ∧
        ∀ s, p.slots[i]? = some s → active = true → s.occupied = true := by
  unfold setActive
  cases hi : p.slots[i]? with
  | none => exact Or.inl rfl
  | some s =>
      by_cases hrefused : (active && ! s.occupied) = true
      · exact Or.inl (by simp [hrefused])
      · refine Or.inr ⟨by simp [hrefused], ?_⟩
        intro s' hs' hactive
        obtain rfl := Option.some.inj hs'
        simpa [hactive] using hrefused

/-- A claim sets the flag of its own slot while it is held, and nothing
otherwise. -/
theorem setClaimActive_eq (p : Pool) (c : Claim) (active : Bool) :
    (p.setClaimActive c active).1 =
      if p.holds c then p.modify c.index ({ · with active }) else p := by
  unfold setClaimActive
  split <;> rfl

/-- The flag has no part in holding a channel. -/
theorem holds_setClaimActive (p : Pool) (a : Claim) (active : Bool)
    (c : Claim) :
    (p.setClaimActive a active).1.holds c = p.holds c := by
  rw [setClaimActive_eq]
  split
  · exact p.holds_modify c _ (fun _ => rfl) (fun _ => rfl)
  · rfl

/-- A release vacates its slot and clears the mark where the slot may be freed,
and is refused everywhere else. -/
theorem free_eq (p : Pool) (i : Nat) (generation : Option Nat) :
    p.free i generation =
      if p.isFreeable i generation
        then ((p.modify i Slot.vacate).unmark i, true)
      else (p, false) := by
  unfold free vacate
  cases p.isFreeable i generation <;> rfl

/-- A claim that does not hold its channel gives nothing back. -/
theorem releaseClaim_of_not_holds {c : Claim} (h : p.holds c = false) :
    (p.releaseClaim c).1 = p := by
  unfold releaseClaim
  rw [free_eq, isFreeable_claim, h]
  rfl

/-- Once it has been given back, a claim holds nothing. -/
theorem holds_releaseClaim (p : Pool) (c : Claim) :
    (p.releaseClaim c).1.holds c = false := by
  cases h : p.holds c with
  | false => rw [releaseClaim_of_not_holds h, h]
  | true =>
      unfold releaseClaim
      rw [free_eq, isFreeable_claim, h]
      exact p.holds_vacated c

/-- **Claiming.**  Either all channels are taken and nothing happens, or the
lowest free one begins its next occupation. -/
theorem Sound.claim_cases (h : p.Sound) :
    (p.claim = (p, none) ∧ ∀ s ∈ p.slots, s.occupied = true) ∨
      ∃ i s, p.slots[i]? = some s ∧ s.occupied = false ∧
        (∀ j < i, ∀ s', p.slots[j]? = some s' → s'.occupied = true) ∧
        p.claim = (⟨p.taken.set i true, p.slots.modify i Slot.occupy⟩,
          some ⟨i, s.generation + 1⟩) := by
  cases hfind : p.taken.findIdx? (! ·) with
  | none =>
      refine Or.inl ⟨by simp [claim, mark, hfind], ?_⟩
      intro s hs
      have hall := List.findIdx?_eq_none_iff.mp hfind s.occupied
        (by rw [h.marks]; exact List.mem_map_of_mem hs)
      simpa using hall
  | some i =>
      obtain ⟨hlt, hfree, hlow⟩ := List.findIdx?_eq_some_iff_getElem.mp hfind
      have hslot : i < p.slots.length := by simpa [h.marks] using hlt
      have hmark :
          ∀ (j : Nat) (hj : j < p.slots.length) (hj' : j < p.taken.length),
            p.taken[j] = p.slots[j].occupied := by
        intro j hj hj'
        simp [h.marks]
      refine Or.inr ⟨i, p.slots[i], List.getElem?_eq_getElem hslot, ?_, ?_, ?_⟩
      · have hocc := hmark i hslot hlt
        simpa [hocc] using hfree
      · intro j hj s' hs'
        obtain ⟨hjlt, rfl⟩ := List.getElem?_eq_some_iff.mp hs'
        have hocc := hmark j hjlt (Nat.lt_trans hj hlt)
        have hlow' := hlow j hj
        simpa [hocc] using hlow'
      · simp only [claim, mark, hfind, occupy, getElem?_modify, if_true]
        rw [List.getElem?_eq_getElem hslot]
        rfl

/-! ## Every operation keeps a pool sound -/

/-- A change of whether one channel is taken, made at the mark and at the slot
alike. -/
theorem Sound.mark (h : p.Sound) {i : Nat} {f : Slot → Slot} {b : Bool}
    (hocc : ∀ s, (f s).occupied = b) (hsound : ∀ s, s.Sound → (f s).Sound) :
    (⟨p.taken.set i b, p.slots.modify i f⟩ : Pool).Sound := by
  refine ⟨?_, ?_⟩
  · have hmap :=
      map_modify_eq_set (l := p.slots) (i := i) (g := Slot.occupied) hocc
    rw [hmap, h.marks]
  · intro s hs
    rcases mem_modify (p := p) hs with hs | ⟨s₀, hs₀, rfl⟩
    · exact h.slots s hs
    · exact hsound s₀ (h.slots s₀ (List.mem_of_getElem? hs₀))

theorem Sound.claim (h : p.Sound) : p.claim.1.Sound := by
  rcases h.claim_cases with ⟨hnone, _⟩ | ⟨i, s, _, _, _, hsome⟩
  · rwa [hnone]
  · rw [hsome]
    exact h.mark (fun _ => rfl) (fun _ hs => hs.occupy)

/-- A release keeps the marks and the slots in step, refused or not. -/
theorem Sound.free (h : p.Sound) (i : Nat) (generation : Option Nat) :
    (p.free i generation).1.Sound := by
  rw [free_eq]
  split
  · exact h.mark (fun _ => rfl) (fun _ hs => hs.vacate)
  · exact h

theorem Sound.setOwner (h : p.Sound) (i : Nat) (name : String) :
    (p.setOwner i name).Sound := by
  refine h.modify ?_ (fun s _ hs => hs.own name)
  intro s
  split <;> rfl

theorem Sound.setActive (h : p.Sound) (i : Nat) (active : Bool) :
    (p.setActive i active).1.Sound := by
  rcases setActive_eq p i active with heq | ⟨heq, hocc⟩
  · rwa [heq]
  · rw [heq]
    exact h.modify (fun _ => rfl) (fun s hs hsound => hsound.flag (hocc s hs))

/-- A claim that is held names an occupied slot, so that its flag may be set. -/
theorem Sound.setClaimActive (h : p.Sound) (c : Claim) (active : Bool) :
    (p.setClaimActive c active).1.Sound := by
  rw [setClaimActive_eq]
  split
  · next hheld =>
      refine h.modify (fun _ => rfl) ?_
      intro s hs hsound
      refine hsound.flag (fun _ => ?_)
      simp only [holds, hs, Option.map_some, Option.getD_some, Slot.isHeldAs,
        Bool.and_eq_true] at hheld
      exact hheld.1
  · exact h

theorem Sound.drain (h : p.Sound) (i n : Nat) : (p.drain i n).1.Sound := by
  rw [drain_eq]
  exact h.modify (fun _ => rfl) (fun s _ hs => hs.drain n)

/-- Publishing offers the same bytes to every slot. -/
theorem Sound.publish (h : p.Sound) (bs : Bytes) : (p.publish bs).1.Sound := by
  refine ⟨?_, ?_⟩
  · have hocc : Slot.occupied ∘ (·.offer bs) = Slot.occupied := funext fun s =>
      s.occupied_offer bs
    simp [Pool.publish, h.marks, hocc]
  · intro s hs
    obtain ⟨s₀, hs₀, rfl⟩ := List.mem_map.mp hs
    exact (h.slots s₀ hs₀).offer bs

/-- A new pool is sound: all channels free, all queues empty. -/
theorem Sound.create? {channels queueCapacity : Nat}
    (h : Pool.create? channels queueCapacity = some p) : p.Sound := by
  unfold Pool.create? at h
  split at h
  · cases h
    exact ⟨rfl, by simp⟩
  · obtain ⟨queue, hqueue, rfl⟩ := Option.map_eq_some_iff.mp h
    refine ⟨by simp, ?_⟩
    intro s hs
    obtain rfl := List.eq_of_mem_replicate hs
    exact ⟨Queue.WellFormed.empty? hqueue, fun _ =>
        ⟨rfl, Queue.toList_empty? hqueue, rfl⟩⟩

/-! ## No operation takes an occupation back -/

/-- The slot that a claim takes was free, and starts a new generation. -/
theorem Sound.later_claim (h : p.Sound) : p.Later p.claim.1 := by
  rcases h.claim_cases with ⟨hnone, _⟩ | ⟨i, s, _, _, _, hsome⟩
  · rw [hnone]
    exact Later.refl p
  · rw [hsome]
    exact later_modify p i Slot.later_occupy

theorem later_free (p : Pool) (i : Nat) (generation : Option Nat) :
    p.Later (p.free i generation).1 := by
  rw [free_eq]
  split
  · exact later_modify p i Slot.later_vacate
  · exact Later.refl p

theorem later_setOwner (p : Pool) (i : Nat) (name : String) :
    p.Later (p.setOwner i name) := by
  refine later_modify p i ?_
  intro s
  split <;> exact Slot.Later.of_eq rfl rfl

theorem later_setActive (p : Pool) (i : Nat) (active : Bool) :
    p.Later (p.setActive i active).1 := by
  rcases setActive_eq p i active with heq | ⟨heq, _⟩
  · rw [heq]
    exact Later.refl p
  · rw [heq]
    exact later_modify p i (fun _ => Slot.Later.of_eq rfl rfl)

theorem later_setClaimActive (p : Pool) (c : Claim) (active : Bool) :
    p.Later (p.setClaimActive c active).1 := by
  rw [setClaimActive_eq]
  split
  · exact later_modify p c.index (fun _ => Slot.Later.of_eq rfl rfl)
  · exact Later.refl p

theorem later_drain (p : Pool) (i n : Nat) : p.Later (p.drain i n).1 := by
  rw [drain_eq]
  exact later_modify p i (fun _ => Slot.Later.of_eq rfl rfl)

/-- Publishing is the one operation that changes several slots, each of them
within its occupation. -/
theorem later_publish (p : Pool) (bs : Bytes) : p.Later (p.publish bs).1 := by
  intro i s hs
  refine ⟨s.offer bs, by simp [publish, hs], ?_⟩
  exact Slot.Later.of_eq (s.generation_offer bs) (s.occupied_offer bs)

end Pool

namespace Downlink

/-- The bytes that a request offers to the active channels, if it offers any. -/
def outgoing (d : Downlink) : Op → Option Bytes
  | .publish bytes => some bytes
  | .sendFrame f => some f.encode
  | .send component m => some (d.publisher.frame component m).encode
  | .sendHeartbeat component hb =>
      some (d.publisher.frame component hb.toMessage).encode
  | .sendStatusText severity text =>
      (Message.statusText? severity text).map fun m =>
        (d.publisher.frame d.publisher.component m).encode
  | _ => none

/-- **What a request does to the channels.**  It publishes what it sends out, or
it is one of the operations of the pool. -/
theorem pool_perform (d : Downlink) (op : Op) :
    (d.perform op).1.pool =
      match d.outgoing op, op with
      | some bytes, _ => (d.pool.publish bytes).1
      | none, .claim => d.pool.claim.1
      | none, .release i => d.pool.release i
      | none, .releaseClaim c => (d.pool.releaseClaim c).1
      | none, .setOwner i name => d.pool.setOwner i name
      | none, .setActive i active => (d.pool.setActive i active).1
      | none, .setClaimActive c active => (d.pool.setClaimActive c active).1
      | none, .drain i n => (d.pool.drain i n).1
      | none, _ => d.pool := by
  cases op with
  | sendStatusText severity text =>
      cases hm : Message.statusText? severity text <;>
        simp [perform, outgoing, sendStatusText, Publisher.sendStatusText,
          Publisher.send, hm]
  | _ => rfl

/-- Every request to a downlink keeps its pool sound. -/
theorem sound_perform {d : Downlink} (h : d.pool.Sound) (op : Op) :
    (d.perform op).1.pool.Sound := by
  rw [pool_perform]
  split
  · exact h.publish _
  · exact h.claim
  · exact h.free _ none
  · exact h.free _ (some _)
  · exact h.setOwner _ _
  · exact h.setActive _ _
  · exact h.setClaimActive _ _
  · exact h.drain _ _
  · exact h

/-- Whatever is asked of a downlink, no occupation that is over comes back. -/
theorem later_perform {d : Downlink} (h : d.pool.Sound) (op : Op) :
    d.pool.Later (d.perform op).1.pool := by
  rw [pool_perform]
  split
  · exact d.pool.later_publish _
  · exact h.later_claim
  · exact d.pool.later_free _ none
  · exact d.pool.later_free _ (some _)
  · exact d.pool.later_setOwner _ _
  · exact d.pool.later_setActive _ _
  · exact d.pool.later_setClaimActive _ _
  · exact d.pool.later_drain _ _
  · exact Pool.Later.refl d.pool

end Downlink

end GroundLink
