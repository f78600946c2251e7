import GroundLink.Presence.Sighting
import Mathlib.Data.List.Basic

/-!
# What a tracker keeps is enough

A tracker keeps a deadline and one bit.  The deadline is that of the latest
heartbeat, also where a heartbeat has moved it back; the bit says whether the
other side is there by all that was seen (`Tracker.Recounts`).  One thing more
that is seen changes both as it should, and the answer is what it calls for
(`Recounts.see`); so it is over any sequence, whatever the clock does
(`tracker_recounts_sightings`).

The bit goes from a poll to the next only if the poll is in time, and then
nothing that was true of the looks since the latest heartbeat is lost: this is
`Sighting.present_concat_poll`.
-/

namespace GroundLink

namespace Sighting

variable {timeout start now : Nat} {seen : List Sighting}

/-- A heartbeat is the latest sighting of its own time. -/
theorem latest_concat_heartbeat (start now : Nat) (seen : List Sighting) :
    latest start (seen ++ [heartbeat now]) = now := by
  simp [latest, beat?]

/-- A poll is no sighting of the other side. -/
theorem latest_concat_poll (start now : Nat) (seen : List Sighting) :
    latest start (seen ++ [poll now]) = latest start seen := by
  simp [latest, beat?]

/-- Polls do not move the deadline. -/
theorem latest_of_polls (start : Nat) (before : List Sighting) (beat : Nat)
    {after : List Sighting}
    (hpolls : ∀ s ∈ after, ∃ now, s = poll now ∧ now ≤ beat + timeout) :
    latest start (before ++ heartbeat beat :: after) = beat := by
  have hafter : after.filterMap beat? = [] := by
    apply List.filterMap_eq_nil_iff.mpr
    intro s hs
    obtain ⟨now, rfl, _⟩ := hpolls s hs
    rfl
  simp [latest, List.filterMap_append, beat?, hafter]

theorem not_present_nil (timeout : Nat) : ¬Present timeout [] := by
  rintro ⟨before, beat, after, hsplit, _⟩
  simp at hsplit

/-- With a heartbeat the other side is there, whatever was before. -/
theorem present_concat_heartbeat (timeout now : Nat) (seen : List Sighting) :
    Present timeout (seen ++ [heartbeat now]) :=
  ⟨seen, now, [], rfl, nofun⟩

/-- **With a poll** it stays there if the poll is in time. -/
theorem present_concat_poll (timeout start now : Nat) (seen : List Sighting) :
    Present timeout (seen ++ [poll now]) ↔
      Present timeout seen ∧ now ≤ latest start seen + timeout := by
  constructor
  · rintro ⟨before, beat, after, hsplit, hpolls⟩
    rcases List.eq_nil_or_concat after with rfl | ⟨after', last, rfl⟩
    · -- the poll is not the heartbeat
      have hlast := (List.append_inj' hsplit rfl).2
      simp at hlast
    · rw [List.concat_eq_append, ← List.cons_append, ← List.append_assoc]
        at hsplit
      obtain ⟨rfl, hlast⟩ := List.append_inj' hsplit rfl
      obtain rfl := List.singleton_inj.mp hlast
      have hpolls' : ∀ s ∈ after', ∃ now, s = poll now ∧ now ≤ beat + timeout :=
        fun s hs => hpolls s (by simp [hs])
      obtain ⟨now', hnow, hearly⟩ := hpolls (poll now) (by simp)
      obtain rfl : now = now' := by simpa using hnow
      refine ⟨⟨before, beat, after', rfl, hpolls'⟩, ?_⟩
      rwa [latest_of_polls start before beat hpolls']
  · rintro ⟨⟨before, beat, after, rfl, hpolls⟩, hearly⟩
    rw [latest_of_polls start before beat hpolls] at hearly
    refine ⟨before, beat, after ++ [poll now], by simp, ?_⟩
    intro s hs
    rcases List.mem_append.mp hs with hs | hs
    · exact hpolls s hs
    · exact ⟨now, List.mem_singleton.mp hs, hearly⟩

/-- There is one answer only. -/
theorem Calls.unique {s : Sighting} {a b : Transition}
    (ha : Calls timeout start seen s a) (hb : Calls timeout start seen s b) :
    a = b := by
  cases ha with
  | came absent =>
      cases hb with
      | came => rfl
      | stayed present => exact absurd present absent
  | stayed present =>
      cases hb with
      | came absent => exact absurd present absent
      | stayed => rfl
  | inTime early =>
      cases hb with
      | inTime => rfl
      | gone late => exact absurd early (Nat.not_le_of_lt late)
      | missing late => exact absurd early (Nat.not_le_of_lt late)
  | gone late present =>
      cases hb with
      | inTime early => exact absurd early (Nat.not_le_of_lt late)
      | gone => rfl
      | missing _ absent => exact absurd present absent
  | missing late absent =>
      cases hb with
      | inTime early => exact absurd early (Nat.not_le_of_lt late)
      | gone _ present => exact absurd present absent
      | missing => rfl

end Sighting

/-! ## What is said of the other side -/

/-- **What has been said** of the other side: that it has come and that it is
gone by turns, in the end whether it is there. -/
structure Said (there : Bool) (answers : List Transition) : Prop where
  byTurns : (false :: answers.filterMap Transition.presence?).IsChain (· ≠ ·)
  last : (false :: answers.filterMap Transition.presence?).getLast? = some there
  balance : answers.count .activated = answers.count .deactivated + there.toNat

section

variable {there : Bool} {answers : List Transition} {a : Transition}

/-- An answer that says nothing new takes no turn. -/
theorem Said.concat_silent (h : Said there answers) (ha : a.presence? = none) :
    Said there (answers ++ [a]) where
  byTurns := by
    rw [List.filterMap_append, List.filterMap_cons_none ha, List.filterMap_nil,
      List.append_nil]
    exact h.byTurns
  last := by
    rw [List.filterMap_append, List.filterMap_cons_none ha, List.filterMap_nil,
      List.append_nil]
    exact h.last
  balance := by
    have hbalance := h.balance
    cases a with
    | activated => cases ha
    | deactivated => cases ha
    | _ => simpa using hbalance

/-- To say the opposite of what was said last goes on by turns. -/
theorem Said.concat_turn (h : Said there answers)
    (ha : a.presence? = some !there) :
    Said (!there) (answers ++ [a]) where
  byTurns := by
    rw [List.filterMap_append, List.filterMap_cons_some ha, List.filterMap_nil,
      ← List.cons_append]
    exact isChain_concat_not h.byTurns h.last
  last := by
    rw [List.filterMap_append, List.filterMap_cons_some ha, List.filterMap_nil,
      ← List.cons_append, List.getLast?_concat]
  balance := by
    have hbalance := h.balance
    cases there with
    | false =>
        cases a with
        | activated => simpa using hbalance
        | _ => cases ha
    | true =>
        cases a with
        | deactivated => simpa using hbalance
        | _ => cases ha

end

namespace Tracker

open Sighting

/-- **What a tracker keeps** of what it has been told. -/
structure Recounts (timeout start : Nat) (seen : List Sighting) (t : Tracker) :
    Prop where
  timeout_eq : t.timeout = timeout
  deadline_eq : t.deadline = latest start seen + timeout
  active_iff : t.active = true ↔ Present timeout seen

variable {timeout start : Nat} {seen : List Sighting} {t : Tracker}

/-- A new tracker has seen nothing. -/
theorem recounts_begin (timeout start : Nat) :
    (begin timeout start).Recounts timeout start [] where
  timeout_eq := rfl
  deadline_eq := rfl
  active_iff := iff_of_false nofun (not_present_nil timeout)

/-- The tracker moves its deadline on with a heartbeat. -/
theorem Recounts.heartbeat (h : t.Recounts timeout start seen) (now : Nat) :
    (t.heartbeat now).1.Recounts timeout start (seen ++ [.heartbeat now]) where
  timeout_eq := h.timeout_eq
  deadline_eq := by
    rw [deadline_heartbeat, latest_concat_heartbeat, h.timeout_eq]
  active_iff := iff_of_true rfl (present_concat_heartbeat timeout now seen)

/-- The tracker compares the time of a poll with its deadline. -/
theorem Recounts.poll (h : t.Recounts timeout start seen) (now : Nat) :
    (t.poll now).1.Recounts timeout start (seen ++ [.poll now]) where
  timeout_eq := by rw [timeout_poll, h.timeout_eq]
  deadline_eq := by rw [deadline_poll, latest_concat_poll, h.deadline_eq]
  active_iff := by
    rw [present_concat_poll timeout start, ← h.active_iff, ← h.deadline_eq]
    unfold Tracker.poll
    split
    · next hearly => simp [hearly]
    · next hlate => simp [hlate]

/-- **One thing more** that a tracker is told. -/
theorem Recounts.see (h : t.Recounts timeout start seen) (s : Sighting) :
    (t.see s).1.Recounts timeout start (seen ++ [s]) := by
  cases s with
  | heartbeat now => exact h.heartbeat now
  | poll now => exact h.poll now

/-- **The answer** is what that calls for. -/
theorem Recounts.calls (h : t.Recounts timeout start seen) (s : Sighting) :
    Calls timeout start seen s (t.see s).2 := by
  cases hactive : t.active with
  | true =>
      have hpresent : Present timeout seen := h.active_iff.mp hactive
      cases s with
      | heartbeat now =>
          simp only [Tracker.see, Tracker.heartbeat, hactive, if_true]
          exact .stayed hpresent
      | poll now =>
          simp only [Tracker.see, Tracker.poll, hactive, h.deadline_eq, if_true]
          split
          · next hearly => exact .inTime hearly
          · next hlate => exact .gone (Nat.lt_of_not_le hlate) hpresent
  | false =>
      have habsent : ¬Present timeout seen := by
        intro hpresent
        rw [h.active_iff.mpr hpresent] at hactive
        cases hactive
      cases s with
      | heartbeat now =>
          simp only [Tracker.see, Tracker.heartbeat, hactive,
            Bool.false_eq_true, if_false]
          exact .came habsent
      | poll now =>
          simp only [Tracker.see, Tracker.poll, hactive, h.deadline_eq,
            Bool.false_eq_true, if_false]
          split
          · next hearly => exact .inTime hearly
          · next hlate => exact .missing (Nat.lt_of_not_le hlate) habsent

/-- What a tracker says of the other side is how its bit changes. -/
theorem said_see {answers : List Transition} (h : Said t.active answers)
    (s : Sighting) :
    Said (t.see s).1.active (answers ++ [(t.see s).2]) := by
  cases s with
  | heartbeat now =>
      cases hactive : t.active with
      | true =>
          rw [hactive] at h
          simp only [Tracker.see, Tracker.heartbeat, hactive, if_true]
          exact h.concat_silent rfl
      | false =>
          rw [hactive] at h
          simp only [Tracker.see, Tracker.heartbeat, hactive,
            Bool.false_eq_true, if_false]
          exact h.concat_turn rfl
  | poll now =>
      unfold Tracker.see Tracker.poll
      dsimp only
      split
      · exact h.concat_silent rfl
      · cases hactive : t.active with
        | true =>
            rw [hactive] at h
            exact h.concat_turn rfl
        | false =>
            rw [hactive] at h
            exact h.concat_silent rfl

/-- **All that a tracker is told**, one thing after the other. -/
theorem recounts_seeAll (timeout start : Nat) (seen : List Sighting) :
    ((begin timeout start).seeAll seen).Recounts timeout start seen := by
  induction seen using List.reverseRecOn with
  | nil => exact recounts_begin timeout start
  | append_singleton seen s ih =>
      rw [seeAll_concat]
      exact ih.see s

/-- The answers of a tracker come by turns. -/
theorem said_answers (timeout start : Nat) (seen : List Sighting) :
    Said ((begin timeout start).seeAll seen).active
      ((begin timeout start).answers seen) := by
  induction seen using List.reverseRecOn with
  | nil => exact ⟨.singleton _, rfl, rfl⟩
  | append_singleton seen s ih =>
      rw [seeAll_concat, answers_concat]
      exact said_see ih s

end Tracker

/-- **A tracker, by all that it has been told.**  Whatever it is told, at
whatever times and in whatever order of times, its deadline is that of the
latest heartbeat, or of the start; it counts the other side as there if there
was a heartbeat and no poll since the latest was past the deadline; it says that
the other side has come and that it is gone by turns, the former first and once
more often exactly while the other side is there; and it answers each thing, and
only so, as all before it calls for. -/
theorem tracker_recounts_sightings (timeout start : Nat)
    (seen : List Sighting) :
    let t := (Tracker.begin timeout start).seeAll seen
    let answers := (Tracker.begin timeout start).answers seen
    t.deadline = Sighting.latest start seen + timeout ∧
      (t.active = true ↔ Sighting.Present timeout seen) ∧
      (false :: answers.filterMap Transition.presence?).IsChain (· ≠ ·) ∧
      answers.count .activated = answers.count .deactivated +
        (if t.active then 1 else 0) ∧
      ∀ before s after answer,
        ((Tracker.begin timeout start).answers
            (before ++ s :: after))[before.length]? = some answer ↔
          Sighting.Calls timeout start before s answer := by
  intro t answers
  have hrecounts := Tracker.recounts_seeAll timeout start seen
  have hsaid := Tracker.said_answers timeout start seen
  refine ⟨hrecounts.deadline_eq, hrecounts.active_iff, hsaid.byTurns, ?_, ?_⟩
  · rw [hsaid.balance]
    cases t.active <;> rfl
  · intro before s after answer
    have hcalls := (Tracker.recounts_seeAll timeout start before).calls s
    rw [Tracker.getElem?_answers, Option.some_inj]
    constructor
    · rintro rfl
      exact hcalls
    · exact hcalls.unique

/-- The clock steps back: the second heartbeat moves the deadline from 15 to 12,
so that a poll at 13 comes too late, and then a poll at 12 is in time again
although nobody is there. -/
example :
    (Tracker.begin 10 0).answers
      [.heartbeat 5, .heartbeat 2, .poll 13, .poll 12, .poll 13] =
      [.activated, .unchanged, .deactivated, .unchanged, .expired] := by decide

end GroundLink
