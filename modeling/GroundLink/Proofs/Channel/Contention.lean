import GroundLink.Channel.Contention
import GroundLink.Proofs.Channel.Ledger

/-!
# Channels under contention

Whatever the order in which callers have their turns, a channel goes round one
cycle: it is free, it is marked for a call, that call occupies it, some call
vacates it, and that call unmarks it.  `Phase` is where it is in that cycle, and
`Rounds` says that a list of strokes runs round it.  In each phase it is settled
whether the channel is marked, whether it is occupied and which call is between
two turns with it (`Contention.At`).

What a turn can be is listed once, in `Downlink.Advances`: five kinds, of which
four are the strokes (`advances_advance`).  From it `At.act` says what one act
does to the phase of a channel, and `At.run` what many do.
`claims_safe_under_contention` reads the claims off the cycle.

A call that has its turns with nobody between them does what `Downlink.perform`
does (`perform_undisturbed`).
-/

namespace GroundLink

/-- Where a channel is between being free and being free again. -/
inductive Phase
  | free
  /-- Marked for a call that has not occupied it yet. -/
  | taking (call : Nat)
  | held
  /-- Vacated by a call that has not unmarked it yet. -/
  | giving (call : Nat)
deriving DecidableEq

namespace Phase

def isMarked : Phase → Bool
  | free => false
  | _ => true

def isOccupied : Phase → Bool
  | held => true
  | _ => false

/-- The call that is between two turns with the channel. -/
def call? : Phase → Option Nat
  | taking k => some k
  | giving k => some k
  | _ => none

/-- Marked, that is occupied or between two turns of a call, and not both. -/
theorem isMarked_eq (p : Phase) :
    p.isMarked = (p.isOccupied || p.call?.isSome) := by
  cases p <;> rfl

/-- No call is at work on a channel that is occupied. -/
theorem call?_of_isOccupied {p : Phase} (h : p.isOccupied = true) :
    p.call? = none := by
  cases p with
  | held => rfl
  | _ => cases h

end Phase

/-! ## The cycle of a channel -/

/-- What a stroke of call `k` makes of the phase of channel `i`. -/
inductive Round (i : Nat) : Phase → Nat × Stroke → Phase → Prop
  | marked (k : Nat) : Round i .free (k, .marked i) (.taking k)
  | issued (k : Nat) {c : Claim} (h : c.index = i) :
      Round i (.taking k) (k, .issued c) .held
  | vacated (k : Nat) : Round i .held (k, .vacated i) (.giving k)
  | freed (k : Nat) : Round i (.giving k) (k, .freed i) .free
  | elsewhere {p : Phase} {k : Nat} {stroke : Stroke} (h : stroke.channel ≠ i) :
      Round i p (k, stroke) p

/-- What many strokes make of it. -/
inductive Rounds (i : Nat) : Phase → List (Nat × Stroke) → Phase → Prop
  | nil (p : Phase) : Rounds i p [] p
  | cons {p q r : Phase} {e : Nat × Stroke} {l : List (Nat × Stroke)}
      (head : Round i p e q)
      (tail : Rounds i q l r) : Rounds i p (e :: l) r

namespace Rounds

variable {i : Nat} {p q r : Phase} {l l' : List (Nat × Stroke)}

/-- Rounds may be made one after the other. -/
theorem append (h : Rounds i p l q) (h' : Rounds i q l' r) :
    Rounds i p (l ++ l') r := by
  induction h with
  | nil => exact h'
  | cons head tail ih => exact .cons head (ih h')

/-- Rounds may be cut anywhere. -/
theorem of_append (h : Rounds i p (l ++ l') r) :
    ∃ q, Rounds i p l q ∧ Rounds i q l' r := by
  induction l generalizing p with
  | nil => exact ⟨p, .nil p, h⟩
  | cons e l ih =>
      cases h with
      | cons head tail =>
          obtain ⟨q, hl, hl'⟩ := ih tail
          exact ⟨q, .cons head hl, hl'⟩

/-- A channel that a call is giving back is taken again only after that call has
freed it. -/
theorem freed_mem {j k : Nat} (h : Rounds i (.giving j) l (.taking k)) :
    (j, Stroke.freed i) ∈ l := by
  generalize hp : Phase.giving j = p at h
  generalize hq : Phase.taking k = q at h
  induction h with
  | nil =>
      subst hp
      cases hq
  | cons head tail ih =>
      subst hp
      cases head with
      | freed => exact List.mem_cons_self
      | elsewhere hother => exact List.mem_cons_of_mem _ (ih rfl hq)

/-- A channel that is held is taken again only after one call has given it
back. -/
theorem exists_release {k : Nat} (h : Rounds i .held l (.taking k)) :
    ∃ j, [(j, Stroke.vacated i), (j, Stroke.freed i)].Sublist l := by
  generalize hp : Phase.held = p at h
  generalize hq : Phase.taking k = q at h
  induction h with
  | nil =>
      subst hp
      cases hq
  | cons head tail ih =>
      subst hp hq
      cases head with
      | vacated j =>
          have hfreed := freed_mem tail
          exact ⟨j, (List.singleton_sublist.mpr hfreed).cons_cons _⟩
      | elsewhere hother =>
          obtain ⟨j, hsub⟩ := ih rfl rfl
          exact ⟨j, hsub.cons _⟩

/-- **Between two claims of a channel** lies a call that has given it back, with
both of its turns. -/
theorem released_between {l₁ l₂ l₃ : List (Nat × Stroke)} {k k' : Nat}
    {c c' : Claim}
    (h : Rounds c.index p
      (l₁ ++ (k, .issued c) :: (l₂ ++ (k', .issued c') :: l₃)) r)
    (heq : c'.index = c.index) :
    ∃ j,
      [(j, Stroke.vacated c.index), (j, Stroke.freed c.index)].Sublist l₂ := by
  obtain ⟨_, _, hrest⟩ := h.of_append
  cases hrest with
  | cons head tail =>
      obtain ⟨q, hbetween, hsecond⟩ := tail.of_append
      cases head with
      | elsewhere hother => exact absurd rfl hother
      | issued =>
          cases hsecond with
          | cons head' tail' =>
              cases head' with
              | elsewhere hother => exact absurd heq hother
              | issued => exact exists_release hbetween

end Rounds

/-! ## Which calls are between two turns -/

/-- The phase in which call `k` keeps channel `i` when it has come as far as
this. -/
def Progress.phase? (k i : Nat) : Progress → Option Phase
  | taking j => if j = i then some (.taking k) else none
  | giving j _ => if j = i then some (.giving k) else none
  | _ => none

/-- A call has a part in the phase of its own channel only. -/
theorem Progress.phase?_eq_none_iff {k i : Nat} {s : Progress} :
    s.phase? k i = none ↔ s.channel? ≠ some i := by
  cases s <;> simp [phase?, channel?]

/-- The phase names the call that has a part in it. -/
theorem Progress.call?_phase? {k i : Nat} {s : Progress} {p : Phase}
    (h : s.phase? k i = some p) :
    p.call? = some k := by
  cases s with
  | taking j =>
      obtain rfl := Option.some.inj (Option.ite_none_right_eq_some.mp h).2
      rfl
  | giving j told =>
      obtain rfl := Option.some.inj (Option.ite_none_right_eq_some.mp h).2
      rfl
  | _ => cases h

/-- In phase `p`, the calls are with channel `i` as they should be: each that is
between two turns with it is the one that the phase names. -/
structure Engaged (calls : List Progress) (i : Nat) (p : Phase) : Prop where
  only : ∀ (k : Nat) (s : Progress) (q : Phase), calls[k]? = some s →
    s.phase? k i = some q → p = q
  there : ∀ k, p.call? = some k → ∃ s : Progress, calls[k]? = some s ∧
    s.phase? k i = some p

namespace Engaged

variable {calls : List Progress} {i k : Nat} {p q : Phase} {s s' : Progress}

/-- A call that is not with the channel before or after makes no difference. -/
theorem set_elsewhere (h : Engaged calls i p) (hs : calls[k]? = some s)
    (hbefore : s.phase? k i = none) (hafter : s'.phase? k i = none) :
    Engaged (calls.set k s') i p := by
  constructor
  · intro m t q ht hq
    by_cases hkm : k = m
    · subst hkm
      rw [List.getElem?_set_self (List.getElem?_eq_some_iff.mp hs).1] at ht
      obtain rfl := Option.some.inj ht
      rw [hafter] at hq
      cases hq
    · rw [List.getElem?_set_ne hkm] at ht
      exact h.only m t q ht hq
  · intro m hm
    obtain ⟨t, ht, hp⟩ := h.there m hm
    by_cases hkm : k = m
    · subst hkm
      obtain rfl := Option.some.inj (hs.symm.trans ht)
      rw [hbefore] at hp
      cases hp
    · exact ⟨t, (List.getElem?_set_ne hkm).trans ht, hp⟩

/-- A call that nobody is in the way of takes the channel to another phase. -/
theorem set (h : Engaged calls i p) (hs : calls[k]? = some s)
    (hp : ∀ m, p.call? = some m → m = k)
    (hafter : s'.phase? k i = if q.call?.isSome then some q else none) :
    Engaged (calls.set k s') i q := by
  have hself : (calls.set k s')[k]? = some s' :=
    List.getElem?_set_self (List.getElem?_eq_some_iff.mp hs).1
  constructor
  · intro m t r ht hr
    by_cases hkm : k = m
    · subst hkm
      obtain rfl := Option.some.inj (hself.symm.trans ht)
      rw [hafter] at hr
      exact Option.some.inj ((Option.ite_none_right_eq_some.mp hr).2)
    · rw [List.getElem?_set_ne hkm] at ht
      have hsame := h.only m t r ht hr
      have hcall := Progress.call?_phase? hr
      rw [← hsame] at hcall
      exact absurd (hp m hcall).symm hkm
  · intro m hm
    have hq : s'.phase? k i = some q := by
      rw [hafter, hm]
      rfl
    obtain rfl : k = m :=
      Option.some.inj ((Progress.call?_phase? hq).symm.trans hm)
    exact ⟨s', hself, hq⟩

/-- One call more, which has done nothing yet. -/
theorem concat (h : Engaged calls i p) (op : Downlink.Op) :
    Engaged (calls ++ [.asked op]) i p := by
  constructor
  · intro m t q ht hq
    rw [List.getElem?_append] at ht
    split at ht
    · exact h.only m t q ht hq
    · obtain rfl := List.mem_singleton.mp (List.mem_of_getElem? ht)
      cases hq
  · intro m hm
    obtain ⟨t, ht, hp⟩ := h.there m hm
    exact ⟨t,
      (List.getElem?_append_left (List.getElem?_eq_some_iff.mp ht).1).trans ht,
      hp⟩

end Engaged

/-! ## What a turn can be -/

/-- The claim that a call has been answered with. -/
def Progress.claim? : Progress → Option Claim
  | answered reply => reply.claim?
  | _ => none

namespace Downlink

/-- The kinds of turns that a call can have that has come as far as `s`: what
the pool is afterwards, how far the call has come then, and the stroke. -/
inductive Advances (d : Downlink) :
    Progress → Pool → Progress → Option Stroke → Prop
  /-- Nothing happens to the marks or to who has a channel. -/
  | quiet {s s' : Progress} {pool : Pool} {j : Nat} {f : Slot → Slot}
      (before : s.channel? = none) (after : s'.channel? = none)
      (answer : s'.claim? = none ∨ s = s') (pool_eq : pool = d.pool.modify j f)
      (occupied : ∀ s, (f s).occupied = s.occupied)
      (sound : ∀ s, d.pool.slots[j]? = some s → s.Sound → (f s).Sound) :
      Advances d s pool s' none
  | marked {j : Nat} (free : d.pool.taken[j]? = some false) :
      Advances d (.asked .claim) { d.pool with taken := d.pool.taken.set j true }
        (.taking j) (some (.marked j))
  | issued {j : Nat} {c : Claim} (index : c.index = j) :
      Advances d (.taking j) (d.pool.modify j Slot.occupy)
        (.answered (.claimed (some c))) (some (.issued c))
  | vacated {j : Nat} {op : Op} {told : Bool}
      (occupied : d.pool.isOccupied j = true) :
      Advances d (.asked op) (d.pool.modify j Slot.vacate) (.giving j told)
        (some (.vacated j))
  | freed {j : Nat} {told : Bool} :
      Advances d (.giving j told) (d.pool.unmark j)
        (.answered (.released told true)) (some (.freed j))

variable {d : Downlink} {s s' : Progress} {pool : Pool} {stroke : Option Stroke}
  {i : Nat}

/-- A turn in which nothing is done to the pool. -/
theorem Advances.idle (before : s.channel? = none) (after : s'.channel? = none)
    (answer : s'.claim? = none ∨ s = s') :
    d.Advances s d.pool s' none := by
  have hsame : d.pool = d.pool.modify 0 id := by
    unfold Pool.modify
    rw [List.modify_id]
  exact .quiet before after answer hsame (fun _ => rfl) (fun _ _ h => h)

/-- A release ends the occupation in its first turn, or changes nothing if it
is refused. -/
theorem advances_vacate (op : Op) (i : Nat) (generation : Option Nat) :
    d.Advances (.asked op) (d.vacate i generation).1.pool
      (d.vacate i generation).2.1
      (d.vacate i generation).2.2 := by
  unfold vacate Pool.vacate
  cases hfreeable : d.pool.isFreeable i generation with
  | false =>
      refine .idle rfl rfl ?_
      cases generation <;> exact .inl rfl
  | true =>
      have hocc : d.pool.isOccupied i = true := by
        unfold Pool.isFreeable at hfreeable
        split at hfreeable
        · cases hfreeable
        · next s hs =>
            rw [Pool.isOccupied_eq hs]
            exact (Bool.and_eq_true_iff.mp hfreeable).1
      exact .vacated hocc

/-- **What a turn can be.** -/
theorem advances_advance (s : Progress) :
    d.Advances s (d.advance s).1.pool (d.advance s).2.1 (d.advance s).2.2 := by
  cases s with
  | taking j => exact .issued rfl
  | giving j told => exact .freed
  | answered reply => exact .idle rfl rfl (.inr rfl)
  | offering bytes next reached =>
      simp only [advance]
      split
      · exact .idle rfl rfl (.inl rfl)
      · exact .quiet rfl rfl (.inl rfl) rfl (fun s => s.occupied_offer bytes)
          (fun _ _ h => h.offer bytes)
  | asked op =>
      cases op with
      | claim =>
          simp only [advance, Pool.mark]
          cases hfind : d.pool.taken.findIdx? (! ·) with
          | none => exact .idle rfl rfl (.inl rfl)
          | some j =>
              obtain ⟨hlt, hfree, _⟩ :=
                List.findIdx?_eq_some_iff_getElem.mp hfind
              refine .marked ?_
              rw [List.getElem?_eq_getElem hlt]
              simpa using hfree
      | release j => exact advances_vacate _ j none
      | releaseClaim c => exact advances_vacate _ c.index (some c.generation)
      | setOwner j name =>
          refine .quiet rfl rfl (.inl rfl) rfl ?_ (fun _ _ h => h.own name)
          intro s
          split <;> rfl
      | setActive j active =>
          rcases Pool.setActive_eq d.pool j active with heq | ⟨heq, hocc⟩
          · have hpool : (d.advance (.asked (.setActive j active))).1.pool =
                d.pool := heq
            rw [hpool]
            exact .idle rfl rfl (.inl rfl)
          · exact .quiet rfl rfl (.inl rfl) heq (fun _ => rfl)
              (fun s hs h => h.flag (hocc s hs))
      | setClaimActive c active =>
          have hpool :
              (d.advance (.asked (.setClaimActive c active))).1.pool = _ :=
            Pool.setClaimActive_eq d.pool c active
          cases hheld : d.pool.holds c with
          | false =>
              rw [hheld] at hpool
              rw [hpool]
              exact .idle rfl rfl (.inl rfl)
          | true =>
              rw [hheld] at hpool
              refine .quiet rfl rfl (.inl rfl) hpool (fun _ => rfl) ?_
              intro s hs h
              refine h.flag fun _ => ?_
              rw [← Pool.isOccupied_eq hs]
              exact (Pool.holds_iff.mp hheld).1
      | drain j n =>
          have hpool := Pool.drain_eq d.pool j n
          exact .quiet rfl rfl (.inl rfl) hpool (fun _ => rfl)
            (fun _ _ h => h.drain n)
      | publish bytes => exact .idle rfl rfl (.inl rfl)
      | sendFrame frame => exact .idle rfl rfl (.inl rfl)
      | send component m => exact .idle rfl rfl (.inl rfl)
      | sendHeartbeat component hb => exact .idle rfl rfl (.inl rfl)
      | sendStatusText severity text =>
          simp only [advance]
          split
          · exact .idle rfl rfl (.inl rfl)
          · exact .idle rfl rfl (.inl rfl)

/-- A channel that a turn does not strike is marked and occupied as before, and
the call is not with it. -/
theorem Advances.elsewhere (h : d.Advances s pool s' stroke)
    (hne : ∀ x ∈ stroke, x.channel ≠ i) :
    pool.taken[i]? = d.pool.taken[i]? ∧
    pool.isOccupied i = d.pool.isOccupied i ∧
      s.channel? ≠ some i ∧ s'.channel? ≠ some i := by
  have hkept {j : Nat} (f : Slot → Slot) (hj : j ≠ i) :
      (d.pool.modify j f).isOccupied i = d.pool.isOccupied i := by
    unfold Pool.isOccupied
    rw [Pool.getElem?_modify, if_neg hj]
  cases h with
  | @quiet _ _ _ j f before after answer pool_eq occupied sound =>
      subst pool_eq
      refine ⟨rfl, ?_, by simp [before], by simp [after]⟩
      by_cases hj : j = i
      · subst hj
        unfold Pool.isOccupied
        rw [Pool.getElem?_modify, if_pos rfl]
        cases d.pool.slots[j]? with
        | none => rfl
        | some s => exact occupied s
      · exact hkept f hj
  | @marked j free =>
      have hj : j ≠ i := hne _ rfl
      exact ⟨List.getElem?_set_ne hj, rfl, nofun, by simpa [Progress.channel?]
        using hj⟩
  | @issued j c index =>
      have hj : j ≠ i := index ▸ hne _ rfl
      exact ⟨rfl, hkept _ hj, by simpa [Progress.channel?] using hj, nofun⟩
  | @vacated j op told occupied =>
      have hj : j ≠ i := hne _ rfl
      exact ⟨rfl, hkept _ hj, nofun, by simpa [Progress.channel?] using hj⟩
  | @freed j told =>
      have hj : j ≠ i := hne _ rfl
      exact ⟨List.getElem?_set_ne hj, rfl, by simpa [Progress.channel?]
        using hj, nofun⟩

/-- A turn leaves as many marks and slots as there were, and every slot
sound. -/
theorem Advances.sound (h : d.Advances s pool s' stroke)
    (hsound : ∀ s ∈ d.pool.slots, s.Sound) :
    pool.taken.length = d.pool.taken.length ∧ pool.capacity = d.pool.capacity ∧
      ∀ s ∈ pool.slots, s.Sound := by
  have hmodify (j : Nat) (f : Slot → Slot)
      (hf : ∀ s, d.pool.slots[j]? = some s → s.Sound → (f s).Sound) :
      ∀ s ∈ (d.pool.modify j f).slots, s.Sound := by
    intro s hs
    rcases Pool.mem_modify hs with hs | ⟨s₀, hs₀, rfl⟩
    · exact hsound s hs
    · exact hf s₀ hs₀ (hsound s₀ (List.mem_of_getElem? hs₀))
  cases h with
  | @quiet _ _ _ j f before after answer pool_eq occupied sound =>
      subst pool_eq
      exact ⟨rfl, d.pool.capacity_modify j f, hmodify j f sound⟩
  | marked => exact ⟨List.length_set, rfl, hsound⟩
  | @issued j =>
      exact ⟨rfl, d.pool.capacity_modify j _, hmodify j _ fun _ _ h => h.occupy⟩
  | @vacated j =>
      exact ⟨rfl, d.pool.capacity_modify j _, hmodify j _ fun _ _ h => h.vacate⟩
  | freed => exact ⟨List.length_set, rfl, hsound⟩

/-- Nobody is answered with a claim but in the turn that issues it. -/
theorem Advances.issues {c : Claim}
    (h : d.Advances s pool (.answered (.claimed (some c))) stroke) :
    s = .answered (.claimed (some c)) ∨ stroke = some (.issued c) := by
  generalize hs' : Progress.answered (.claimed (some c)) = s' at h
  cases h with
  | quiet before after answer =>
      subst hs'
      rcases answer with hnone | hsame
      · cases hnone
      · exact Or.inl hsame
  | issued index =>
      cases hs'
      exact Or.inr rfl
  | @freed j told => cases told <;> cases hs'
  | _ => cases hs'

end Downlink

namespace Contention

/-! ## The phase of a channel -/

/-- There is a mark for every slot, and every slot is sound. -/
structure Sound (c : Contention) : Prop where
  marks : c.downlink.pool.taken.length = c.downlink.pool.capacity
  slots : ∀ s ∈ c.downlink.pool.slots, s.Sound

/-- Channel `i` is in phase `p`. -/
structure At (c : Contention) (i : Nat) (p : Phase) : Prop where
  mark : c.downlink.pool.taken[i]?.getD false = p.isMarked
  slot : c.downlink.pool.isOccupied i = p.isOccupied
  calls : Engaged c.calls i p

variable {c : Contention} {i k : Nat} {p : Phase} {s s' : Progress}
  {pool : Pool} {stroke : Option Stroke}

/-- Who has a marked channel is up to what stands in its slot. -/
theorem At.mark_of_isMarked (h : c.At i p) (hp : p.isMarked = true) :
    c.downlink.pool.taken[i]? = some true := by
  have hmark := h.mark
  rw [hp] at hmark
  cases htaken : c.downlink.pool.taken[i]? with
  | none =>
      rw [htaken] at hmark
      cases hmark
  | some b =>
      rw [htaken] at hmark
      exact congrArg some hmark

/-- A channel that is marked is there, and what a turn makes of its slot is
seen. -/
theorem At.isOccupied_modify (h : c.At i p) (hsound : c.Sound)
    (hp : p.isMarked = true) {f : Slot → Slot} {b : Bool}
    (hf : ∀ s, (f s).occupied = b) :
    (c.downlink.pool.modify i f).isOccupied i = b := by
  have hlt := (List.getElem?_eq_some_iff.mp (h.mark_of_isMarked hp)).1
  rw [hsound.marks] at hlt
  have hslot : c.downlink.pool.slots[i]? = some c.downlink.pool.slots[i] :=
    List.getElem?_eq_getElem hlt
  unfold Pool.isOccupied
  rw [Pool.getElem?_modify, if_pos rfl, hslot]
  exact hf _

/-- **One turn** takes a channel one step round its cycle, if it is a stroke on
it, and leaves it in its phase if not. -/
theorem At.advance (h : c.At i p) (hsound : c.Sound) (hk : c.calls[k]? = some s)
    (hturn : c.downlink.Advances s pool s' stroke) (publisher : Publisher) :
    ∃ q, (⟨⟨pool, publisher⟩, c.calls.set k s'⟩ : Contention).At i q ∧
      Rounds i p (stroke.map (k, ·)).toList q := by
  by_cases hne : ∀ x ∈ stroke, x.channel ≠ i
  · obtain ⟨htaken, hocc, hbefore, hafter⟩ := hturn.elsewhere hne
    refine ⟨p, ⟨?_, hocc.trans h.slot, ?_⟩, ?_⟩
    · exact (congrArg (·.getD false) htaken).trans h.mark
    · exact h.calls.set_elsewhere hk (Progress.phase?_eq_none_iff.mpr hbefore)
        (Progress.phase?_eq_none_iff.mpr hafter)
    · cases stroke with
      | none => exact .nil p
      | some x => exact .cons (.elsewhere (hne x rfl)) (.nil p)
  · push Not at hne
    obtain ⟨x, rfl, hx⟩ := hne
    cases hturn with
    | @marked j free =>
        obtain rfl : j = i := hx
        -- a channel without a mark is free
        obtain rfl : p = .free := by
          have hmark := h.mark
          rw [free] at hmark
          cases p with
          | free => rfl
          | _ => cases hmark
        have hset : (c.downlink.pool.taken.set j true)[j]? = some true :=
          List.getElem?_set_self (List.getElem?_eq_some_iff.mp free).1
        refine ⟨.taking k, ⟨congrArg (·.getD false) hset, h.slot, ?_⟩,
          .cons (.marked k) (.nil _)⟩
        exact h.calls.set hk nofun (if_pos rfl)
    | @issued j c' index =>
        obtain rfl : j = i := index ▸ hx
        obtain rfl : p = .taking k := h.calls.only k _ _ hk (if_pos rfl)
        refine ⟨.held,
          ⟨h.mark, h.isOccupied_modify hsound rfl fun _ => rfl, ?_⟩,
          .cons (.issued k index) (.nil _)⟩
        exact h.calls.set hk (fun m hm => (Option.some.inj hm).symm) rfl
    | @vacated j op told occupied =>
        obtain rfl : j = i := hx
        obtain rfl : p = .held := by
          have hslot := h.slot
          rw [occupied] at hslot
          cases p with
          | held => rfl
          | _ => cases hslot
        refine ⟨.giving k,
          ⟨h.mark, h.isOccupied_modify hsound rfl fun _ => rfl, ?_⟩,
          .cons (.vacated k) (.nil _)⟩
        exact h.calls.set hk nofun (if_pos rfl)
    | @freed j told =>
        obtain rfl : j = i := hx
        obtain rfl : p = .giving k := h.calls.only k _ _ hk (if_pos rfl)
        have hlt := (List.getElem?_eq_some_iff.mp (h.mark_of_isMarked rfl)).1
        have hset : (c.downlink.pool.taken.set j false)[j]? = some false :=
          List.getElem?_set_self hlt
        refine ⟨.free, ⟨congrArg (·.getD false) hset, h.slot, ?_⟩,
          .cons (.freed k) (.nil _)⟩
        exact h.calls.set hk (fun m hm => (Option.some.inj hm).symm) rfl

/-- What an act is: one more call, a turn of a call, or nothing at all. -/
theorem act_cases (c : Contention) (a : Act) :
    (∃ op, c.act a = ({ c with calls := c.calls ++ [.asked op] }, none)) ∨
      (∃ k s pool publisher s' stroke, c.calls[k]? = some s ∧
        c.downlink.Advances s pool s' stroke ∧
          c.act a =
            (⟨⟨pool, publisher⟩, c.calls.set k s'⟩, stroke.map (k, ·))) ∨
      c.act a = (c, none) := by
  cases a with
  | call op => exact Or.inl ⟨op, rfl⟩
  | advance k =>
      cases hk : c.calls[k]? with
      | none => exact Or.inr (Or.inr (by simp only [act, hk]))
      | some s =>
          refine Or.inr
            (Or.inl ⟨k, s, _, (c.downlink.advance s).1.publisher, _, _, hk,
              Downlink.advances_advance s, ?_⟩)
          simp only [act, hk]

/-- No turn of a call adds a channel, or makes the state unsound. -/
theorem Sound.act (h : c.Sound) (a : Act) :
    (c.act a).1.Sound ∧
    (c.act a).1.downlink.pool.capacity = c.downlink.pool.capacity := by
  rcases c.act_cases a with
      ⟨op, hact⟩ | ⟨k, s, pool, publisher, s', stroke, hk, hturn, hact⟩ |
    hact
  · rw [hact]
    exact ⟨⟨h.marks, h.slots⟩, rfl⟩
  · obtain ⟨hmarks, hcapacity, hslots⟩ := hturn.sound h.slots
    rw [hact]
    exact ⟨⟨hmarks.trans (h.marks.trans hcapacity.symm), hslots⟩, hcapacity⟩
  · rw [hact]
    exact ⟨h, rfl⟩

/-- **One act**, for one channel. -/
theorem At.act (h : c.At i p) (hsound : c.Sound) (a : Act) :
    ∃ q, (c.act a).1.At i q ∧ Rounds i p (c.act a).2.toList q := by
  rcases c.act_cases a with
      ⟨op, hact⟩ | ⟨k, s, pool, publisher, s', stroke, hk, hturn, hact⟩ |
    hact
  · rw [hact]
    exact ⟨p, ⟨h.mark, h.slot, h.calls.concat op⟩, .nil p⟩
  · rw [hact]
    exact h.advance hsound hk hturn publisher
  · rw [hact]
    exact ⟨p, h, .nil p⟩

/-- Over any run of turns the state stays sound, with as many channels. -/
theorem Sound.run (h : c.Sound) (acts : List Act) :
    (c.run acts).Sound ∧
    (c.run acts).downlink.pool.capacity = c.downlink.pool.capacity := by
  induction acts generalizing c with
  | nil => exact ⟨h, rfl⟩
  | cons a acts ih =>
      obtain ⟨hsound, hcapacity⟩ := h.act a
      obtain ⟨hsound', hcapacity'⟩ := ih hsound
      exact ⟨hsound', hcapacity'.trans hcapacity⟩

/-- **Many acts**, for one channel: the strokes run round its cycle. -/
theorem At.run (h : c.At i p) (hsound : c.Sound) (acts : List Act) :
    ∃ q, (c.run acts).At i q ∧ Rounds i p (c.strokes acts) q := by
  induction acts generalizing c p with
  | nil => exact ⟨p, h, .nil p⟩
  | cons a acts ih =>
      obtain ⟨q, hq, hround⟩ := h.act hsound a
      obtain ⟨r, hr, hrounds⟩ := ih hq (hsound.act a).1
      exact ⟨r, hr, hround.append hrounds⟩

end Contention

namespace Downlink

/-! ## A call that nobody disturbs -/

/-- With one turn after the other, a call that has come as far as `s` ends with
`reply` and leaves the downlink as `d'`. -/
inductive Finishes : Downlink → Progress → Downlink → Reply → Prop
  | answered (d : Downlink) (reply : Reply) :
      Finishes d (.answered reply) d reply
  | turn {d d' : Downlink} {s : Progress} {reply : Reply}
      (h : Finishes (d.advance s).1 (d.advance s).2.1 d' reply) :
      Finishes d s d' reply

variable {d d' : Downlink} {reply : Reply}

/-- A call that has its answer after one turn more. -/
theorem Finishes.of_answer {s : Progress} (hleft : (d.advance s).1 = d')
    (hanswer : (d.advance s).2.1 = .answered reply) :
    Finishes d s d' reply := by
  refine .turn ?_
  rw [hleft, hanswer]
  exact .answered d' reply

/-- Offering to one slot after the other is offering to all that are left. -/
theorem finishes_offering (bytes : Bytes) (publisher : Publisher)
    (taken : List Bool) (before slots : List Slot) (reached : Nat) :
    Finishes ⟨⟨taken, before ++ slots⟩, publisher⟩
      (.offering bytes before.length reached)
      ⟨⟨taken, before ++ slots.map (·.offer bytes)⟩, publisher⟩
      (.reached (reached + slots.countP Slot.active)) := by
  induction slots generalizing before reached with
  | nil =>
      have hnone : (before ++ [])[before.length]? = none := by simp
      refine .of_answer ?_ ?_
      · simp only [advance, hnone]
        rfl
      · simp only [advance, hnone]
        rfl
  | cons s slots ih =>
      have hnext :=
        ih (before ++ [s.offer bytes]) (reached + if s.active then 1 else 0)
      have hsome : (before ++ s :: slots)[before.length]? = some s := by simp
      have hmodify :
          (before ++ s :: slots).modify before.length (·.offer bytes) =
          before ++ [s.offer bytes] ++ slots := by
        simp [List.modify_eq_set_getElem?]
      have hcount : reached + (s :: slots).countP Slot.active =
          reached + (if s.active then 1 else 0) + slots.countP Slot.active := by
        rw [List.countP_cons]
        omega
      refine .turn ?_
      simp only [advance, hsome, Pool.modify, hmodify, hcount, List.map_cons]
      rw [List.length_append, List.append_assoc, List.append_assoc] at hnext
      rw [List.append_assoc]
      exact hnext

/-- Slot by slot, a call offers its bytes as a publication does. -/
theorem finishes_publish (d : Downlink) (bytes : Bytes) :
    Finishes d (.offering bytes 0 0) (d.publish bytes).1
      (.reached (d.publish bytes).2) := by
  have h := finishes_offering bytes d.publisher d.pool.taken [] d.pool.slots 0
  rw [Nat.zero_add] at h
  exact h

/-- A message is published once its number has been taken. -/
theorem finishes_announce (d : Downlink) (op : Op) (component : UInt8)
    (m : Message) (h : d.advance (.asked op) = d.announce component m) :
    Finishes d (.asked op) (d.send component m).1
      (.reached (d.send component m).2) := by
  refine .turn ?_
  rw [h]
  exact finishes_publish _ (d.publisher.frame component m).encode

/-- The two turns of a release come to the same as one. -/
theorem finishes_free (d : Downlink) (op : Op) (i : Nat)
    (generation : Option Nat)
    (h : d.advance (.asked op) = d.vacate i generation) :
    Finishes d (.asked op) { d with pool := (d.pool.free i generation).1 }
      (.released generation.isSome (d.pool.free i generation).2) := by
  cases hfreeable : d.pool.isFreeable i generation with
  | false =>
      refine .of_answer ?_ ?_ <;>
        simp only [h, vacate, Pool.free, Pool.vacate, hfreeable,
          Bool.false_eq_true, if_false]
  | true =>
      refine .turn ?_
      rw [h]
      simp only [vacate, Pool.free, Pool.vacate, hfreeable, if_true]
      exact .of_answer rfl rfl

/-- A call that has all its turns at once does what is asked in one go. -/
theorem finishes_perform (d : Downlink) (op : Op) :
    Finishes d (.asked op) (d.perform op).1 (d.perform op).2 := by
  cases op with
  | claim =>
      cases hfind : d.pool.taken.findIdx? (! ·) with
      | none =>
          refine .of_answer ?_ ?_ <;>
            simp only [advance, perform, Pool.claim, Pool.mark, hfind]
      | some i =>
          refine .turn ?_
          simp only [advance, perform, Pool.claim, Pool.mark, hfind]
          exact .of_answer rfl rfl
  | release i => exact finishes_free d _ i none rfl
  | releaseClaim c => exact finishes_free d _ c.index (some c.generation) rfl
  | setOwner i name => exact .of_answer rfl rfl
  | setActive i active => exact .of_answer rfl rfl
  | setClaimActive c active => exact .of_answer rfl rfl
  | drain i n => exact .of_answer rfl rfl
  | publish bytes => exact .turn (finishes_publish d bytes)
  | sendFrame frame => exact .turn (finishes_publish d frame.encode)
  | send component m => exact finishes_announce d _ component m rfl
  | sendHeartbeat component hb =>
      exact finishes_announce d _ component hb.toMessage rfl
  | sendStatusText severity text =>
      cases htext : Message.statusText? severity text with
      | none =>
          have hperform : d.perform (.sendStatusText severity text) =
              (d, .reached 0) := by
            simp only [perform, d.sendStatusText_of_long severity text htext]
          rw [hperform]
          refine .of_answer ?_ ?_ <;> simp only [advance, htext]
      | some m =>
          have hperform : d.perform (.sendStatusText severity text) =
              ((d.send d.publisher.component m).1,
                .reached (d.send d.publisher.component m).2) := by
            simp only [perform, sendStatusText, Publisher.sendStatusText, htext]
            rfl
          rw [hperform]
          refine finishes_announce d _ d.publisher.component m ?_
          simp only [advance, htext]

end Downlink

namespace Contention

/-- The last call has its turns, and nobody else has any. -/
theorem exists_turns {d d' : Downlink} {s : Progress} {reply : Downlink.Reply}
    (h : d.Finishes s d' reply) (calls : List Progress) :
    ∃ n, (⟨d, calls ++ [s]⟩ : Contention).run
      (List.replicate n (.advance calls.length)) =
      ⟨d', calls ++ [.answered reply]⟩ := by
  induction h with
  | answered d reply => exact ⟨0, rfl⟩
  | @turn d d' s reply h ih =>
      obtain ⟨n, hn⟩ := ih
      have hact :
          ((⟨d, calls ++ [s]⟩ : Contention).act (.advance calls.length)).1 =
          ⟨(d.advance s).1, calls ++ [(d.advance s).2.1]⟩ := by
        simp [act]
      refine ⟨n + 1, ?_⟩
      rw [List.replicate_succ, run_cons, hact]
      exact hn

/-- **A call that nobody disturbs** does what `Downlink.perform` does, and is
answered so. -/
theorem perform_undisturbed (c : Contention) (op : Downlink.Op) :
    ∃ n, c.run (.call op :: List.replicate n (.advance c.calls.length)) =
      ⟨(c.downlink.perform op).1,
        c.calls ++ [.answered (c.downlink.perform op).2]⟩ := by
  obtain ⟨n, hn⟩ :=
    exists_turns (Downlink.finishes_perform c.downlink op) c.calls
  exact ⟨n, hn⟩

variable {c : Contention} {i k : Nat} {p : Phase}

/-! ## What callers can rely on -/

/-- The two records of who has a channel, at any moment. -/
structure Safe (channels : Nat) (c : Contention) : Prop where
  capacity : c.downlink.pool.capacity = channels
  /-- A channel is marked exactly while it is occupied or a call is between two
  turns with it. -/
  marked_iff : ∀ i, c.downlink.pool.taken[i]? = some true ↔
    c.downlink.pool.isOccupied i = true ∨ ∃ k, c.IsBetween k i
  /-- It is not both. -/
  apart : ∀ i k, c.IsBetween k i → c.downlink.pool.isOccupied i = false
  /-- No two calls are between their turns with one channel. -/
  single : ∀ i k k', c.IsBetween k i → c.IsBetween k' i → k = k'
  /-- A channel that is not occupied is inactive and empty. -/
  clean : ∀ s ∈ c.downlink.pool.slots, s.occupied = false → s.Clean
  /-- With no call between two turns, the records agree, and all goes on as with
  one caller. -/
  settled : (∀ i k, ¬c.IsBetween k i) →
    c.downlink.pool.taken = c.downlink.pool.slots.map Slot.occupied ∧
      c.downlink.Orderly channels

/-- A call that is between two turns with a channel is the one that its phase
names. -/
theorem At.isBetween_iff (h : c.At i p) (k : Nat) :
    c.IsBetween k i ↔ p.call? = some k := by
  constructor
  · rintro ⟨s, hs, hchannel⟩
    cases hphase : s.phase? k i with
    | none => exact absurd hchannel (Progress.phase?_eq_none_iff.mp hphase)
    | some q =>
        rw [h.calls.only k s q hs hphase]
        exact Progress.call?_phase? hphase
  · intro hp
    obtain ⟨s, hs, hphase⟩ := h.calls.there k hp
    refine ⟨s, hs, ?_⟩
    by_contra hchannel
    rw [Progress.phase?_eq_none_iff.mpr hchannel] at hphase
    cases hphase

/-- A channel is marked in every phase but the first. -/
theorem At.marked_iff (h : c.At i p) :
    c.downlink.pool.taken[i]? = some true ↔ p.isMarked = true := by
  rw [← h.mark]
  cases c.downlink.pool.taken[i]? <;> simp

/-- With no call between two turns with it, a channel is marked if it is
occupied. -/
theorem At.mark_eq_slot (h : c.At i p) (hnone : ∀ k, ¬c.IsBetween k i) :
    c.downlink.pool.taken[i]?.getD false = c.downlink.pool.isOccupied i := by
  have hcall : p.call? = none := by
    rw [Option.eq_none_iff_forall_ne_some]
    exact fun k hk => hnone k ((h.isBetween_iff k).mpr hk)
  rw [h.mark, h.slot, p.isMarked_eq, hcall, Option.isSome_none, Bool.or_false]

/-- With no call between two turns at all, the marks are what the slots say. -/
theorem taken_eq_occupied (hsound : c.Sound) (hat : ∀ i, ∃ p, c.At i p)
    (hnone : ∀ i k, ¬c.IsBetween k i) :
    c.downlink.pool.taken = c.downlink.pool.slots.map Slot.occupied := by
  apply List.ext_getElem
  · rw [List.length_map]
    exact hsound.marks
  · intro i hi hi'
    obtain ⟨p, hp⟩ := hat i
    have hmark := hp.mark_eq_slot (hnone i)
    rw [List.length_map] at hi'
    rw [List.getElem?_eq_getElem hi,
      Pool.isOccupied_eq (List.getElem?_eq_getElem hi')] at hmark
    rw [List.getElem_map]
    exact hmark

/-- Whoever knows the phase of every channel knows that marks, slots and
calls agree. -/
theorem safe_of_at (hsound : c.Sound) (hat : ∀ i, ∃ p, c.At i p) :
    c.Safe c.downlink.pool.capacity where
  capacity := rfl
  marked_iff := by
    intro i
    obtain ⟨p, hp⟩ := hat i
    rw [hp.marked_iff, hp.slot, p.isMarked_eq, Bool.or_eq_true,
      Option.isSome_iff_exists]
    simp only [hp.isBetween_iff]
  apart := by
    intro i k hk
    obtain ⟨p, hp⟩ := hat i
    have hcall := (hp.isBetween_iff k).mp hk
    rw [hp.slot, Bool.eq_false_iff]
    intro hocc
    rw [Phase.call?_of_isOccupied hocc] at hcall
    cases hcall
  single := by
    intro i k k' hk hk'
    obtain ⟨p, hp⟩ := hat i
    exact Option.some.inj
      (((hp.isBetween_iff k).mp hk).symm.trans ((hp.isBetween_iff k').mp hk'))
  clean := fun s hs => (hsound.slots s hs).clean
  settled := by
    intro hnone
    have hmarks := taken_eq_occupied hsound hat hnone
    exact ⟨hmarks, Downlink.orderly_of_sound ⟨hmarks, hsound.slots⟩⟩

/-- A call that is answered with a claim has been so before, or the claim is
issued to it. -/
theorem issued_of_answered_act {a : Act} {cl : Claim}
    (h : (c.act a).1.calls[k]? = some (.answered (.claimed (some cl)))) :
    c.calls[k]? = some (.answered (.claimed (some cl))) ∨
      (k, .issued cl) ∈ (c.act a).2.toList := by
  rcases c.act_cases a with
      ⟨op, hact⟩ | ⟨j, s, pool, publisher, s', stroke, hj, hturn, hact⟩ |
    hact
  · rw [hact] at h
    rw [List.getElem?_append] at h
    split at h
    · exact Or.inl h
    · have hlast := List.mem_singleton.mp (List.mem_of_getElem? h)
      cases hlast
  · rw [hact] at h ⊢
    by_cases hjk : j = k
    · subst hjk
      have hset :=
        List.getElem?_set_self (a := s') (List.getElem?_eq_some_iff.mp hj).1
      obtain rfl := Option.some.inj (hset.symm.trans h)
      rcases hturn.issues with rfl | rfl
      · exact Or.inl hj
      · exact Or.inr (List.mem_singleton.mpr rfl)
    · exact Or.inl ((List.getElem?_set_ne hjk).symm.trans h)
  · rw [hact] at h
    exact Or.inl h

/-- Whoever is answered with a claim at the end has been issued it in the
run. -/
theorem issued_of_answered {acts : List Act} {cl : Claim}
    (h : (c.run acts).calls[k]? = some (.answered (.claimed (some cl)))) :
    c.calls[k]? = some (.answered (.claimed (some cl))) ∨
    (k, .issued cl) ∈ c.strokes acts := by
  induction acts generalizing c with
  | nil => exact Or.inl h
  | cons a acts ih =>
      unfold strokes
      rcases ih h with hafter | hmem
      · rcases issued_of_answered_act hafter with hbefore | hmem
        · exact Or.inl hbefore
        · exact Or.inr (List.mem_append_left _ hmem)
      · exact Or.inr (List.mem_append_right _ hmem)

/-- In a new pool every channel is free, and nobody has called. -/
theorem at_start {channels queueCapacity : Nat} {d : Downlink}
    (hcreate : Pool.create? channels queueCapacity = some d.pool) (i : Nat) :
    ({ downlink := d } : Contention).At i .free := by
  have hocc : d.pool.isOccupied i = false := by
    unfold Pool.create? at hcreate
    unfold Pool.isOccupied
    split at hcreate
    · rw [← Option.some.inj hcreate]
      rfl
    · obtain ⟨queue, _, hpool⟩ := Option.map_eq_some_iff.mp hcreate
      rw [← hpool, List.getElem?_replicate]
      split <;> rfl
  have hmarks := (Pool.Sound.create? hcreate).marks
  refine ⟨?_, hocc, ⟨nofun, nofun⟩⟩
  show d.pool.taken[i]?.getD false = false
  rw [hmarks, List.getElem?_map]
  exact hocc

/-- **Channels are safe under contention.**  However many callers there are and
in whatever order they have their turns: a channel is marked exactly while it is
occupied or one call is between its two turns with it, and never both; no two
calls are; what is not occupied is inactive and empty; and whenever no call is
between two turns, the marks agree with the slots and no channel is lost.

Between two claims of one channel there is a call that has given it back, with
both of its turns; and nobody is answered with a claim that has not been issued
to that very call. -/
theorem claims_safe_under_contention {channels queueCapacity : Nat}
    {d : Downlink} (hcreate : Pool.create? channels queueCapacity = some d.pool)
    (acts : List Act) :
    let start : Contention := { downlink := d }
    (start.run acts).Safe channels ∧
      (∀ l₁ k c l₂ k' c' l₃,
        start.strokes acts = l₁ ++ (k, .issued c) ::
          (l₂ ++ (k', .issued c') :: l₃) →
          c'.index = c.index →
            ∃ j,
              [(j, Stroke.vacated c.index), (j, Stroke.freed c.index)].Sublist
                l₂) ∧
      ∀ k c, (start.run acts).calls[k]? = some (.answered (.claimed (some c))) →
        (k, .issued c) ∈ start.strokes acts := by
  intro start
  have hpool : d.pool.Sound := .create? hcreate
  have hsound : start.Sound := ⟨hpool.length_taken, hpool.slots⟩
  obtain ⟨hsound', hcapacity⟩ := hsound.run acts
  have hat (i : Nat) := (at_start hcreate i).run hsound acts
  refine ⟨?_, ?_, ?_⟩
  · have hsafe : (start.run acts).Safe _ := safe_of_at hsound' fun i =>
      let ⟨p, hp, _⟩ := hat i
      ⟨p, hp⟩
    rwa [hcapacity, Pool.capacity_create? hcreate] at hsafe
  · intro l₁ k c l₂ k' c' l₃ hstrokes hindex
    obtain ⟨p, _, hrounds⟩ := hat c.index
    rw [hstrokes] at hrounds
    exact hrounds.released_between hindex
  · intro k c hanswer
    rcases issued_of_answered hanswer with hbefore | hmem
    · cases hbefore
    · exact hmem

/-- Two claims, a release that comes too early and one in time, with a message
and an activation between their turns; while channel 0 is on its way back,
nobody finds it. -/
def scramble : List Act :=
  [.call .claim, .advance 0, .call .claim, .advance 1, .advance 1,
    .call (.release 0), .advance 2, .call (.publish [7]), .advance 3,
    .advance 3, .advance 0, .call (.setActive 0 true), .advance 4,
    .call (.release 0), .advance 5, .advance 3, .call .claim, .advance 6,
    .call (.setActive 0 true), .advance 7, .advance 5, .advance 3, .call .claim,
    .advance 8, .advance 8]

/-- Channel 0 is issued to the first call and to the last, and the sixth has
given it back. -/
theorem scramble_safe :
    let start : Contention := { downlink := Downlink.pair 8 }
    let between : List (Nat × Stroke) :=
      [(5, .vacated 0), (5, .freed 0), (8, .marked 0)]
    Pool.create? 2 8 = some (Downlink.pair 8).pool ∧
      start.strokes scramble =
        [(0, .marked 0), (1, .marked 1), (1, .issued ⟨1, 1⟩)] ++
        (0, .issued ⟨0, 1⟩) :: (between ++ (8, .issued ⟨0, 2⟩) :: []) ∧
      (∃ j, [(j, Stroke.vacated 0), (j, Stroke.freed 0)].Sublist between) ∧
      (start.run scramble).Safe 2 ∧
      (start.run scramble).calls[6]? = some (.answered (.claimed none)) ∧
      (start.run scramble).calls[7]? = some (.answered (.changed false)) := by
  intro start between
  have hcreate : Pool.create? 2 8 = some (Downlink.pair 8).pool := rfl
  have hstrokes : start.strokes scramble = [(0, .marked 0), (1, .marked 1),
      (1, .issued ⟨1, 1⟩)] ++ (0, .issued ⟨0, 1⟩) ::
        (between ++ (8, .issued ⟨0, 2⟩) :: []) := by
    decide
  obtain ⟨hsafe, hbetween, _⟩ := claims_safe_under_contention hcreate scramble
  exact ⟨hcreate, hstrokes, hbetween _ _ _ _ _ _ _ hstrokes rfl, hsafe, by
      decide, by decide⟩

end Contention

end GroundLink
