import GroundLink.Proofs.Channel.Waiting

/-!
# How channels are handed out and given back

Claiming a channel clears nothing: it sets a mark, a flag and a generation, and
takes the rest of the slot as it finds it.  That a new occupation starts without
bytes, without an owner and inactive rests on what everybody else does: giving a
channel back clears it, and no request touches a free one.  `Pool.Tidy` is what
anyone sees of that after any run of requests.

What any one request can make of a slot is listed once, in `Slot.Became`
(`Downlink.slots_perform`).

A claim takes the lowest free channel and changes nothing else (`Pool.Takes`),
giving back frees one channel and changes nothing else (`Pool.Frees`); both say
what becomes of every channel, `Pool.SameBut` of those that are not meant.
`Downlink.channels_handed_out_in_order` puts the three together.
-/

namespace GroundLink

namespace Slot

/-- Nothing is left in the slot of whoever had it before. -/
def Clean (s : Slot) : Prop :=
  s.active = false ∧ s.queue.toList = [] ∧ s.owner = none

/-- What a request that sends nothing can make of the slot of channel `i`. -/
inductive Became (op : Downlink.Op) (i : Nat) (s : Slot) : Slot → Prop
  | kept : Became op i s s
  | occupied (hop : op = .claim) (hfree : s.occupied = false) :
      Became op i s s.occupy
  | vacated : Became op i s s.vacate
  | owned (name : String) : Became op i s { s with owner := some name }
  | flagged (active : Bool) : Became op i s { s with active }
  | drained {n : Nat} (hop : op = .drain i n) : Became op i s (s.drain n).1

end Slot

namespace Pool

/-- `p'` is `p` but for channel `i`. -/
structure SameBut (i : Nat) (p p' : Pool) : Prop where
  capacity : p'.capacity = p.capacity
  slots : ∀ j, j ≠ i → p'.slots[j]? = p.slots[j]?
  taken : ∀ j, j ≠ i → p'.taken[j]? = p.taken[j]?

/-- From `p` to `p'`, channel `i` has been given back: it was occupied, and it
is free and clean now, with its counters and its generation as they were. -/
structure Frees (p : Pool) (i : Nat) (p' : Pool) : Prop where
  occupied : p.isOccupied i = true
  slot : ∀ s, p.slots[i]? = some s → ∃ queue : Queue, queue.toList = [] ∧
    p'.slots[i]? = some
      { s with occupied := false, active := false, queue, owner := none }
  mark : p'.taken[i]? = some false
  others : SameBut i p p'

/-- From `p` to `p'`, the claim `c` has been handed out: its channel is the
lowest that was free, it was clean, and only its occupation is new. -/
structure Takes (p : Pool) (c : Claim) (p' : Pool) : Prop where
  free : p.isOccupied c.index = false
  lowest : ∀ j < c.index, p.isOccupied j = true
  slot : ∃ s, p.slots[c.index]? = some s ∧ s.Clean ∧
    c.generation = s.generation + 1 ∧
    p'.slots[c.index]? = some
      { s with occupied := true, generation := c.generation }
  mark : p'.taken[c.index]? = some true
  others : SameBut c.index p p'

/-- Marks and slots agree, and a free channel is clean. -/
structure Tidy (channels : Nat) (p : Pool) : Prop where
  capacity : p.capacity = channels
  marks : p.taken.length = channels
  agree : ∀ (i : Nat) (s : Slot), p.slots[i]? = some s →
    p.taken[i]? = some s.occupied
  clean : ∀ s ∈ p.slots, s.occupied = false → s.Clean

variable {p : Pool}

/-! ## One channel and the others -/

/-- One slot and its mark are all that such a change concerns. -/
theorem sameBut_change (p : Pool) (i : Nat) (f : Slot → Slot) (b : Bool) :
    SameBut i p ⟨p.taken.set i b, p.slots.modify i f⟩ := by
  refine ⟨p.capacity_modify i f, ?_, ?_⟩
  · intro j hj
    simp [Ne.symm hj]
  · intro j hj
    simp [Ne.symm hj]

/-- A sound pool has a mark for every channel. -/
theorem Sound.length_taken (h : p.Sound) : p.taken.length = p.capacity := by
  simp [h.marks, capacity]

/-- The mark of a channel that is there can be set. -/
theorem Sound.mark_set (h : p.Sound) {i : Nat} {s : Slot}
    (hs : p.slots[i]? = some s) (b : Bool) :
    (p.taken.set i b)[i]? = some b := by
  have hlt : i < p.capacity := (List.getElem?_eq_some_iff.mp hs).1
  rw [List.getElem?_set_self]
  rwa [h.length_taken]

theorem isOccupied_eq {i : Nat} {s : Slot} (hs : p.slots[i]? = some s) :
    p.isOccupied i = s.occupied := by
  simp [isOccupied, hs]

/-- A channel that is occupied is there. -/
theorem isOccupied_eq_true {i : Nat} (h : p.isOccupied i = true) :
    ∃ s, p.slots[i]? = some s ∧ s.occupied = true := by
  unfold isOccupied at h
  cases hs : p.slots[i]? with
  | none => simp [hs] at h
  | some s => exact ⟨s, rfl, by simpa [hs] using h⟩

/-- Whoever sees a sound pool sees a tidy one. -/
theorem Sound.tidy (h : p.Sound) : p.Tidy p.capacity := by
  refine ⟨rfl, h.length_taken, ?_, ?_⟩
  · intro i s hs
    simp [h.marks, hs]
  · intro s hs hfree
    exact (h.slots s hs).clean hfree

/-! ## Giving back -/

/-- If no generation is named, every occupied channel may be freed. -/
theorem isFreeable_none (p : Pool) (i : Nat) :
    p.isFreeable i none = p.isOccupied i := by
  unfold isFreeable isOccupied
  cases p.slots[i]? <;> simp

/-- **Giving back** frees one channel, whoever has to be named for it. -/
theorem Sound.frees (h : p.Sound) {i : Nat} {generation : Option Nat}
    (hfree : p.isFreeable i generation = true) :
    p.Frees i (p.free i generation).1 := by
  rw [free_eq, if_pos hfree]
  unfold isFreeable at hfree
  cases hs : p.slots[i]? with
  | none => simp [hs] at hfree
  | some s =>
      have hocc : s.occupied = true := by
        rw [hs, Bool.and_eq_true] at hfree
        exact hfree.1
      refine ⟨(isOccupied_eq hs).trans hocc, ?_, h.mark_set hs false,
        p.sameBut_change i _ false⟩
      intro s' hs'
      refine ⟨s'.queue.reset, Queue.toList_reset _, ?_⟩
      have hslots : ((p.modify i Slot.vacate).unmark i).slots =
          (p.modify i Slot.vacate).slots := rfl
      rw [hslots, getElem?_modify, if_pos rfl, hs']
      rfl

/-- Giving back what nobody has changes nothing. -/
theorem release_of_not_isOccupied {i : Nat} (h : p.isOccupied i = false) :
    p.release i = p := by
  unfold release
  rw [free_eq, isFreeable_none, h]
  rfl

/-! ## Handing out -/

/-- **Handing out.**  What a claim brings is taken as `Takes` says. -/
theorem Sound.takes (h : p.Sound) {c : Claim} (hc : p.claim.2 = some c) :
    p.Takes c p.claim.1 := by
  rcases h.claim_cases with ⟨hnone, _⟩ | ⟨i, s, hs, hfree, hlow, hsome⟩
  · rw [hnone] at hc
    cases hc
  · rw [hsome] at hc ⊢
    obtain rfl := Option.some.inj hc
    refine ⟨(isOccupied_eq hs).trans hfree, ?_, ?_, h.mark_set hs true,
      p.sameBut_change i _ true⟩
    · intro j hj
      have hlt : j < p.slots.length :=
        Nat.lt_trans hj (List.getElem?_eq_some_iff.mp hs).1
      have hslot := List.getElem?_eq_getElem hlt
      rw [isOccupied_eq hslot]
      exact hlow j hj _ hslot
    · refine ⟨s, hs, (h.slots s (List.mem_of_getElem? hs)).clean hfree, rfl, ?_⟩
      simp [hs, Slot.occupy]

/-- Nothing is handed out exactly when every channel is occupied. -/
theorem Sound.claim_eq_none_iff (h : p.Sound) :
    p.claim.2 = none ↔ ∀ i < p.capacity, p.isOccupied i = true := by
  rcases h.claim_cases with ⟨hnone, hall⟩ | ⟨i, s, hs, hfree, _, hsome⟩
  · rw [hnone]
    apply iff_of_true rfl
    intro i hi
    have hslot : p.slots[i]? = some p.slots[i] := List.getElem?_eq_getElem hi
    rw [isOccupied_eq hslot]
    exact hall _ (List.mem_of_getElem? hslot)
  · rw [hsome]
    apply iff_of_false (by simp)
    intro hall
    have hocc := hall i (List.getElem?_eq_some_iff.mp hs).1
    rw [isOccupied_eq hs, hfree] at hocc
    cases hocc

/-- A claim that finds nothing leaves nothing behind. -/
theorem Sound.claim_of_none (h : p.Sound) (hnone : p.claim.2 = none) :
    p.claim.1 = p := by
  rcases h.claim_cases with ⟨heq, _⟩ | ⟨_, _, _, _, _, hsome⟩
  · rw [heq]
  · rw [hsome] at hnone
    cases hnone

/-- The channel handed out is the lowest free one. -/
theorem Sound.index_claim_iff (h : p.Sound) (i : Nat) :
    p.claim.2.map Claim.index = some i ↔
      i < p.capacity ∧ p.isOccupied i = false ∧ ∀ j < i,
      p.isOccupied j = true := by
  constructor
  · intro hi
    obtain ⟨c, hc, rfl⟩ := Option.map_eq_some_iff.mp hi
    have htakes := h.takes hc
    obtain ⟨s, hs, _⟩ := htakes.slot
    exact ⟨(List.getElem?_eq_some_iff.mp hs).1, htakes.free, htakes.lowest⟩
  · rintro ⟨hlt, hfree, hlow⟩
    cases hc : p.claim.2 with
    | none =>
        have hocc := h.claim_eq_none_iff.mp hc i hlt
        rw [hfree] at hocc
        cases hocc
    | some c =>
        -- both are free, and below each of them everything is occupied
        have htakes := h.takes hc
        rcases Nat.lt_trichotomy c.index i with hbelow | heq | habove
        · have hocc := hlow c.index hbelow
          rw [htakes.free] at hocc
          cases hocc
        · simp [heq]
        · have hocc := htakes.lowest i habove
          rw [hfree] at hocc
          cases hocc

/-- A new pool has as many channels as were asked for. -/
theorem capacity_create? {channels queueCapacity : Nat}
    (h : Pool.create? channels queueCapacity = some p) :
    p.capacity = channels := by
  unfold Pool.create? at h
  split at h
  · next hzero =>
      cases h
      exact hzero.symm
  · obtain ⟨queue, _, rfl⟩ := Option.map_eq_some_iff.mp h
    simp [capacity]

end Pool

namespace Downlink

variable {d : Downlink}

/-! ## What a request can do to a slot -/

/-- What a request sends out is published. -/
theorem pool_perform_of_outgoing {op : Op} {bytes : Bytes}
    (hout : d.outgoing op = some bytes) :
    (d.perform op).1.pool = (d.pool.publish bytes).1 := by
  rw [pool_perform, hout]

/-- **A request that sends nothing** changes at most one slot. -/
theorem slots_perform (h : d.pool.Sound) {op : Op}
    (hout : d.outgoing op = none) :
    ∃ i f, (d.perform op).1.pool.slots = d.pool.slots.modify i f ∧
      ∀ s, d.pool.slots[i]? = some s → s.Became op i (f s) := by
  have hkept : ∃ i f, d.pool.slots = d.pool.slots.modify i f ∧
      ∀ s, d.pool.slots[i]? = some s → s.Became op i (f s) :=
    ⟨0, id, (List.modify_id 0 d.pool.slots).symm, fun _ _ => .kept⟩
  have hfree : ∀ i generation, ∃ j f, (d.pool.free i generation).1.slots =
      d.pool.slots.modify j f ∧ ∀ s, d.pool.slots[j]? = some s →
      s.Became op j (f s) := by
    intro i generation
    rw [Pool.free_eq]
    split
    · exact ⟨i, Slot.vacate, rfl, fun _ _ => .vacated⟩
    · exact hkept
  rw [pool_perform, hout]
  cases op with
  | claim =>
      rcases h.claim_cases with ⟨hnone, _⟩ | ⟨i, s, hs, hslot, _, hsome⟩
      · simpa only [hnone] using hkept
      · refine ⟨i, Slot.occupy, by simp only [hsome], ?_⟩
        intro s' hs'
        obtain rfl : s = s' := Option.some.inj (hs.symm.trans hs')
        exact .occupied rfl hslot
  | release i => exact hfree i none
  | releaseClaim c => exact hfree c.index (some c.generation)
  | setOwner i name =>
      refine ⟨i, _, rfl, ?_⟩
      intro s _
      split
      · exact .owned name
      · exact .kept
  | setActive i active =>
      rcases Pool.setActive_eq d.pool i active with heq | ⟨heq, _⟩
      · simpa only [heq] using hkept
      · exact ⟨i, _, by simp only [heq, Pool.modify], fun _ _ =>
            .flagged active⟩
  | setClaimActive c active =>
      dsimp only
      rw [Pool.setClaimActive_eq]
      split
      · exact ⟨c.index, _, rfl, fun _ _ => .flagged active⟩
      · exact hkept
  | drain i n =>
      dsimp only
      rw [Pool.drain_eq]
      exact ⟨i, _, rfl, fun _ _ => .drained rfl⟩
  | publish bytes => cases hout
  | sendFrame frame => cases hout
  | send component m => cases hout
  | sendHeartbeat component hb => cases hout
  | sendStatusText severity text => exact hkept

/-- The channels are made with the pool, and none is ever added. -/
theorem capacity_perform (h : d.pool.Sound) (op : Op) :
    (d.perform op).1.pool.capacity = d.pool.capacity := by
  cases hout : d.outgoing op with
  | some bytes => rw [pool_perform_of_outgoing hout, Pool.capacity_publish]
  | none =>
      obtain ⟨i, f, hslots, _⟩ := slots_perform h hout
      unfold Pool.capacity
      rw [hslots, List.length_modify]

/-! ## Along a run of requests -/

/-- **After every run of requests** the pool is sound. -/
theorem sound_run (h : d.pool.Sound) (ops : List Op) :
    (d.run ops).pool.Sound := by
  induction ops generalizing d with
  | nil => exact h
  | cons op ops ih => exact ih (sound_perform h op)

/-- Over a whole run no occupation is taken back. -/
theorem later_run (h : d.pool.Sound) (ops : List Op) :
    d.pool.Later (d.run ops).pool := by
  induction ops generalizing d with
  | nil => exact Pool.Later.refl d.pool
  | cons op ops ih => exact (later_perform h op).trans (ih (sound_perform h op))

theorem capacity_run (h : d.pool.Sound) (ops : List Op) :
    (d.run ops).pool.capacity = d.pool.capacity := by
  induction ops generalizing d with
  | nil => rfl
  | cons op ops ih =>
      exact (ih (sound_perform h op)).trans (capacity_perform h op)

/-- Channels are handed out lowest first and clean, and given back one at a
time. -/
structure Orderly (channels : Nat) (d : Downlink) : Prop where
  /-- Marks and slots agree, and a channel that is not occupied is clean. -/
  tidy : d.pool.Tidy channels
  /-- The channel handed out is the lowest that is not occupied. -/
  lowest : ∀ i, (d.perform .claim).2.channel? = some i ↔
    i < channels ∧ d.pool.isOccupied i = false ∧ ∀ j < i,
    d.pool.isOccupied j = true
  /-- None is handed out exactly when all are occupied. -/
  full : (d.perform .claim).2.channel? = none ↔ ∀ i < channels,
    d.pool.isOccupied i = true
  /-- A claim that brings nothing changes nothing. -/
  refused : (d.perform .claim).2.claim? = none → (d.perform .claim).1 = d
  /-- A claim changes nothing but the occupation of its channel. -/
  takes : ∀ c, (d.perform .claim).2.claim? = some c →
    d.pool.Takes c (d.perform .claim).1.pool
  /-- Nothing of an earlier occupation is left on a channel that is handed
  out. -/
  fresh : ∀ c, (d.perform .claim).2.claim? = some c →
    (d.perform .claim).1.pool.isActive c.index = false ∧
      (d.perform .claim).1.pool.waiting c.index = [] ∧
      (d.perform .claim).1.pool.owner c.index = none
  /-- Giving back an occupied channel frees that one and changes no other. -/
  frees : ∀ i, d.pool.isOccupied i = true →
    d.pool.Frees i (d.perform (.release i)).1.pool
  /-- Giving back a channel that nobody has, or that there is not, changes
  nothing. -/
  kept : ∀ i, d.pool.isOccupied i = false → d.perform (.release i) = (d, .done)

/-- A sound pool hands its channels out and takes them back in order. -/
theorem orderly_of_sound (h : d.pool.Sound) : d.Orderly d.pool.capacity where
  tidy := h.tidy
  lowest := h.index_claim_iff
  full := by
    have hnone := h.claim_eq_none_iff
    simpa [perform, Reply.channel?, Reply.claim?] using hnone
  refused := by
    intro hnone
    have hsame : d.pool.claim.1 = d.pool := h.claim_of_none hnone
    simp [perform, hsame]
  takes := fun _ hc => h.takes hc
  fresh := by
    intro c hc
    have htakes : d.pool.Takes c d.pool.claim.1 := h.takes hc
    obtain ⟨s, _, ⟨hactive, hempty, howner⟩, _, hs⟩ := htakes.slot
    refine ⟨?_, ?_, ?_⟩
    · simpa [perform, Pool.isActive, hs] using hactive
    · simpa [perform, Pool.waiting, hs] using hempty
    · simpa [perform, Pool.owner, hs] using howner
  frees := by
    intro i hocc
    exact h.frees (by rwa [Pool.isFreeable_none])
  kept := by
    intro i hfree
    simp [perform, Pool.release_of_not_isOccupied hfree]

/-- **Channels are handed out lowest first and clean**, and given back one at a
time, after any run of requests to a new downlink. -/
theorem channels_handed_out_in_order {channels queueCapacity : Nat}
    (hcreate : Pool.create? channels queueCapacity = some d.pool)
    (ops : List Op) :
    (d.run ops).Orderly channels := by
  have h : d.pool.Sound := .create? hcreate
  have hcapacity : (d.run ops).pool.capacity = channels :=
    (capacity_run h ops).trans (Pool.capacity_create? hcreate)
  rw [← hcapacity]
  exact orderly_of_sound (sound_run h ops)

/-- Two channels whose queues have so many cells. -/
def pair (cells : Nat) : Downlink :=
  ⟨⟨[false, false],
    List.replicate 2 { queue := ⟨Array.replicate cells 0, 0, 0⟩ }⟩,
    { system := 1, component := 1 }⟩

/-- Channel 0 is used, given back by number and given back again; what comes
next is channel 0 once more, in its second occupation. -/
theorem pair_handed_out_in_order :
    let used : List Op :=
      [.claim, .claim, .setOwner 0 "first", .setActive 0 true,
        .publish [1, 2, 3], .release 0, .release 0, .release 7]
    Pool.create? 2 8 = some (pair 8).pool ∧ ((pair 8).run used).Orderly 2 ∧
      (((pair 8).run used).perform .claim).2 = .claimed (some ⟨0, 2⟩) := by
  have hcreate : Pool.create? 2 8 = some (pair 8).pool := rfl
  exact ⟨hcreate, channels_handed_out_in_order hcreate _, by decide⟩

end Downlink

end GroundLink
