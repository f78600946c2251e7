import GroundLink.Link.Watch
import GroundLink.Proofs.Link.ActiveCount
import Mathlib.Data.List.DropRight

/-!
# When a failsafe asks for a disarm

A failsafe sees one number and remembers one bit.  What it answers is said here
in terms of the links and of its own earlier looks: it asks for a disarm exactly
when the vehicle is armed, no link is active, and it has not asked since it last
looked while a link was (`Watch.failsafe_asks_once`).

The bit is an account of the looks since a link was last seen
(`Failsafe.Recalls`), the number is right in every state (`Traffic.Counted`),
and no failsafe touches what another one sees or remembers
(`Watch.looks_of_spared`).
-/

namespace GroundLink

namespace Look

/-- The looks since the last one that saw an active link. -/
def sinceLinked (looks : List Look) : List Look :=
  looks.rtakeWhile fun l => ! l.linked

/-- The looks of failsafe `k`. -/
def of (k : Nat) (looks : List Look) : List Look :=
  looks.filter (·.failsafe == k)

/-- What one look answers, given the earlier looks of the same failsafe. -/
def IsDue (past : List Look) (l : Look) : Prop :=
  l.action = .disarm ↔
    l.armed = true ∧ l.linked = false ∧ ∀ e ∈ sinceLinked past,
    e.action ≠ .disarm

/-- Every look of one failsafe answered as it should. -/
def Lawful (looks : List Look) : Prop :=
  ∀ past l later, looks = past ++ l :: later → IsDue past l

/-- A look that sees an active link begins a new time without one. -/
theorem sinceLinked_concat_of_linked (past : List Look) {l : Look}
    (h : l.linked = true) :
    sinceLinked (past ++ [l]) = [] :=
  List.rtakeWhile_concat_neg _ past l (by simp [h])

/-- A look that sees none goes on with the time. -/
theorem sinceLinked_concat (past : List Look) {l : Look}
    (h : l.linked = false) :
    sinceLinked (past ++ [l]) = sinceLinked past ++ [l] :=
  List.rtakeWhile_concat_pos _ past l (by simp [h])

/-- The looks of this time are among all the looks. -/
theorem mem_of_mem_sinceLinked {looks : List Look} {l : Look}
    (h : l ∈ sinceLinked looks) :
    l ∈ looks :=
  (List.rtakeWhile_suffix _ looks).subset h

/-- A look that saw no link is among the latest as long as none after it saw
one. -/
theorem mem_sinceLinked (before : List Look) {l : Look} {between : List Look}
    (hl : l.linked = false) (hbetween : ∀ e ∈ between, e.linked = false) :
    l ∈ sinceLinked (before ++ l :: between) := by
  induction between using List.reverseRecOn with
  | nil =>
      rw [sinceLinked_concat before hl]
      exact List.mem_append_right _ (List.mem_singleton_self l)
  | append_singleton between e ih =>
      have he : e.linked = false := hbetween e (by simp)
      have hsplit : before ++ l :: (between ++ [e]) =
          (before ++ l :: between) ++ [e] := by simp
      rw [hsplit, sinceLinked_concat _ he]
      refine List.mem_append_left _ (ih ?_)
      intro e' he'
      exact hbetween e' (List.mem_append_left _ he')

/-! ## What follows from the law -/

/-- A failsafe that has not looked has done nothing wrong. -/
theorem lawful_nil : Lawful [] := by
  intro past l later h
  simp at h

/-- One look more is lawful if it answers what is due after those before. -/
theorem Lawful.concat {past : List Look} {l : Look} (h : Lawful past)
    (hl : IsDue past l) :
    Lawful (past ++ [l]) := by
  intro past' l' later hsplit
  rcases List.eq_nil_or_concat later with rfl | ⟨later', e, rfl⟩
  · obtain ⟨rfl, hone⟩ := List.append_inj' hsplit rfl
    obtain rfl := List.singleton_inj.mp hone
    exact hl
  · rw [List.concat_eq_append, ← List.cons_append, ← List.append_assoc]
      at hsplit
    obtain ⟨hpast, _⟩ := List.append_inj' hsplit rfl
    exact h past' l' later' hpast

variable {looks : List Look}

/-- Whoever asks for a disarm does so for an armed vehicle and while no link is
active. -/
theorem Lawful.of_disarm (h : Lawful looks) {l : Look} (hl : l ∈ looks)
    (hdisarm : l.action = .disarm) : l.armed = true ∧ l.linked = false := by
  obtain ⟨past, later, hsplit⟩ := List.append_of_mem hl
  obtain ⟨harmed, hlinked, _⟩ := (h past l later hsplit).mp hdisarm
  exact ⟨harmed, hlinked⟩

/-- **Nothing is asked for while a link is active.** -/
theorem Lawful.none_of_linked (h : Lawful looks) {l : Look} (hl : l ∈ looks)
    (hlinked : l.linked = true) : l.action = .none := by
  cases haction : l.action with
  | none => rfl
  | disarm =>
      have hnot := (h.of_disarm hl haction).2
      rw [hlinked] at hnot
      cases hnot

/-- **Between two disarms** a link has been seen. -/
theorem Lawful.linked_between (h : Lawful looks)
    {before between after : List Look} {a b : Look}
    (hsplit : looks = before ++ a :: (between ++ b :: after))
    (ha : a.action = .disarm) (hb : b.action = .disarm) :
    ∃ e ∈ between, e.linked = true := by
  by_contra hnone
  have hbetween : ∀ e ∈ between, e.linked = false := by
    intro e he
    by_contra hlinked
    exact hnone ⟨e, he, by simpa using hlinked⟩
  have hmem : a ∈ looks := by simp [hsplit]
  have hsplit' : looks = (before ++ a :: between) ++ b :: after := by
    simp [hsplit]
  obtain ⟨_, _, hsince⟩ := (h _ b after hsplit').mp hb
  exact hsince a (mem_sinceLinked before (h.of_disarm hmem ha).2 hbetween) ha

/-- **The first look for an armed vehicle** since a link was seen, if it sees
none, asks for a disarm. -/
theorem Lawful.disarm_of_first (h : Lawful looks) {before after : List Look}
    {l : Look} (hsplit : looks = before ++ l :: after) (harmed : l.armed = true)
    (hlinked : l.linked = false)
    (hfirst : ∀ e ∈ sinceLinked before, e.armed = false) :
    l.action = .disarm := by
  refine (h before l after hsplit).mpr ⟨harmed, hlinked, ?_⟩
  intro e he hdisarm
  have hmem : e ∈ looks := by simp [hsplit, mem_of_mem_sinceLinked he]
  have harmed' := (h.of_disarm hmem hdisarm).1
  rw [hfirst e he] at harmed'
  cases harmed'

end Look

namespace Failsafe

/-- The failsafe remembers whether it has asked since it last saw a link. -/
def Recalls (f : Failsafe) (past : List Look) : Prop :=
  f.tripped = true ↔ ∃ e ∈ Look.sinceLinked past, e.action = .disarm

/-- A new failsafe has not asked for a disarm. -/
theorem recalls_new : ({} : Failsafe).Recalls [] := by
  simp [Recalls, Look.sinceLinked]

variable {f : Failsafe} {past : List Look}

/-- While a link is active a failsafe is made ready, and asks for nothing. -/
theorem check_of_linked (f : Failsafe) {active : ActiveCount}
    (h : 0 < active.links) (armed : Bool) :
    f.check active armed = ({ tripped := false }, .none) := by
  simp [check, h]

/-- A vehicle that is not armed, or a failsafe that has tripped, is left
alone. -/
theorem check_of_quiet {active : ActiveCount} (h : ¬ 0 < active.links)
    {armed : Bool} (hquiet : armed = false ∨ f.tripped = true) :
    f.check active armed = (f, .none) := by
  rcases hquiet with harmed | htripped
  · simp [check, h, harmed]
  · simp [check, h, htripped]

/-- With no link active and the vehicle armed, a failsafe that is ready trips
and asks for the disarm. -/
theorem check_of_ready {active : ActiveCount} (h : ¬ 0 < active.links)
    (htripped : f.tripped = false) :
    f.check active true = ({ tripped := true }, .disarm) := by
  simp [check, h, htripped]

/-- **One look**, at a count that says whether a link is active: the answer is
the one that is due, and the failsafe remembers it. -/
theorem Recalls.check (h : f.Recalls past) {active : ActiveCount}
    {linked : Bool} (hlinked : linked = true ↔ 0 < active.links) (k : Nat)
    (armed : Bool) :
    Look.IsDue past ⟨k, armed, linked, (f.check active armed).2⟩ ∧
      (f.check active armed).1.Recalls
        (past ++ [⟨k, armed, linked, (f.check active armed).2⟩]) := by
  cases hl : linked with
  | true =>
      rw [f.check_of_linked (hlinked.mp hl), Look.IsDue, Recalls,
        Look.sinceLinked_concat_of_linked past rfl]
      simp
  | false =>
      have hzero : ¬ 0 < active.links := by
        intro hpos
        rw [hlinked.mpr hpos] at hl
        cases hl
      by_cases hquiet : armed = false ∨ f.tripped = true
      · rw [check_of_quiet hzero hquiet, Look.IsDue, Recalls,
          Look.sinceLinked_concat past rfl]
        refine ⟨iff_of_false nofun ?_, by simpa [Recalls] using h⟩
        rintro ⟨harmed, _, hnone⟩
        rcases hquiet with hnot | htripped
        · rw [hnot] at harmed
          cases harmed
        · obtain ⟨e, he, hdisarm⟩ := h.mp htripped
          exact hnone e he hdisarm
      · obtain ⟨rfl, htripped⟩ : armed = true ∧ f.tripped = false := by
          simpa using hquiet
        rw [check_of_ready hzero htripped, Look.IsDue, Recalls,
          Look.sinceLinked_concat past rfl]
        refine ⟨iff_of_true rfl ⟨rfl, rfl, ?_⟩, by simp⟩
        intro e he hdisarm
        rw [h.mpr ⟨e, he, hdisarm⟩] at htripped
        cases htripped

end Failsafe

/-- There is no link just if none is active. -/
theorem Traffic.isLinked_eq_false_iff {ε : Type} {w : Traffic ε} :
    w.isLinked = false ↔ ∀ c ∈ w.courses, c.link.state ≠ .active := by
  simp [isLinked, Course.isActive]

/-- The count says whether a link is active. -/
theorem Traffic.Counted.isLinked_iff {ε : Type} {w : Traffic ε}
    (h : w.Counted) :
    w.isLinked = true ↔ 0 < w.active.links := by
  rw [h.count, List.countP_pos_iff]
  exact List.any_eq_true

namespace Watch

variable {ε : Type} {w : Watch ε} {past : List Look}

/-- The count is right, `past` are the looks so far, each answered as it should,
and every failsafe remembers its own. -/
structure Kept (past : List Look) (w : Watch ε) : Prop where
  counted : w.traffic.Counted
  lawful : ∀ k, Look.Lawful (Look.of k past)
  recalls : ∀ (k : Nat) (f : Failsafe), w.failsafes[k]? = some f →
    f.Recalls (Look.of k past)
  known : ∀ l ∈ past, l.failsafe < w.failsafes.length

/-- Before the first look there are no failsafes to answer for. -/
theorem kept_start (d : Downlink) : Kept [] (start (ε := ε) d) where
  counted := Traffic.counted_start d
  lawful := fun _ => Look.lawful_nil
  recalls := fun k f hf => by simp [start] at hf
  known := by simp

/-- No failsafe has looked before it was installed. -/
theorem Kept.of_eq_nil (h : Kept past w) {k : Nat}
    (hk : w.failsafes.length ≤ k) :
    Look.of k past = [] := by
  apply List.filter_eq_nil_iff.mpr
  intro l hl heq
  have hlt := h.known l hl
  have hkey : l.failsafe = k := by simpa using heq
  omega

/-- The looks of one failsafe, with one more look of any of them. -/
theorem of_concat (k : Nat) (past : List Look) (l : Look) :
    Look.of k (past ++ [l]) =
      if l.failsafe = k then Look.of k past ++ [l] else Look.of k past := by
  unfold Look.of
  split
  · next h => simp [h]
  · next h => simp [h]

/-- **A look** is answered as it should be and is remembered by the failsafe
that looks; the others have nothing to do with it. -/
theorem Kept.look (h : Kept past w) {k : Nat} {f : Failsafe}
    (hf : w.failsafes[k]? = some f) (armed : Bool) :
    Kept
      (past ++
        [⟨k, armed, w.traffic.isLinked, (f.check w.traffic.active armed).2⟩])
      { w with
        failsafes := w.failsafes.set k (f.check w.traffic.active armed).1 } := by
  obtain ⟨hdue, hrecalls⟩ :=
    (h.recalls k f hf).check h.counted.isLinked_iff k armed
  obtain ⟨hlt, _⟩ := List.getElem?_eq_some_iff.mp hf
  refine ⟨h.counted, ?_, ?_, ?_⟩
  · intro j
    rw [of_concat]
    split
    · next hkj =>
        obtain rfl : k = j := hkj
        exact (h.lawful k).concat hdue
    · exact h.lawful j
  · intro j f' hf'
    rw [List.getElem?_set] at hf'
    rw [of_concat]
    by_cases hkj : k = j
    · subst hkj
      rw [if_pos rfl, if_pos hlt] at hf'
      obtain rfl := Option.some.inj hf'
      rwa [if_pos rfl]
    · rw [if_neg hkj] at hf' ⊢
      exact h.recalls j f' hf'
  · intro l hl
    rw [List.length_set]
    rcases List.mem_append.mp hl with hl | hl
    · exact h.known l hl
    · obtain rfl := List.mem_singleton.mp hl
      exact hlt

/-- A failsafe that is new has no looks to remember. -/
theorem Kept.install (h : Kept past w) :
    Kept past { w with failsafes := w.failsafes ++ [{}] } := by
  refine ⟨h.counted, h.lawful, ?_, ?_⟩
  · intro k f hf
    rcases Nat.lt_or_ge k w.failsafes.length with hlt | hge
    · exact h.recalls k f ((List.getElem?_append_left hlt).symm.trans hf)
    · have hnew : ([{}] : List Failsafe)[k - w.failsafes.length]? = some f :=
        (List.getElem?_append_right hge).symm.trans hf
      obtain rfl := List.mem_singleton.mp (List.mem_of_getElem? hnew)
      rw [h.of_eq_nil hge]
      exact Failsafe.recalls_new
  · intro l hl
    have hlt := h.known l hl
    rw [List.length_append]
    omega

variable [Endpoint ε]

/-- **One deed** keeps all that. -/
theorem Kept.step (h : Kept past w) (x : Deed ε) :
    Kept (past ++ (w.step x).2.toList) (w.step x).1 := by
  cases x with
  | act a =>
      have hpast : past ++ (w.step (.act a)).2.toList = past :=
        List.append_nil past
      rw [hpast]
      exact ⟨h.counted.act a, h.lawful, h.recalls, h.known⟩
  | install =>
      have hpast : past ++ (w.step .install).2.toList = past :=
        List.append_nil past
      rw [hpast]
      exact h.install
  | check k armed =>
      cases hf : w.failsafes[k]? with
      | none =>
          rw [step_check_of_none hf]
          simpa using h
      | some f =>
          rw [step_check hf]
          exact h.look hf armed

/-- **Any deeds in any order** keep it. -/
theorem Kept.run (h : Kept past w) (deeds : List (Deed ε)) :
    Kept (past ++ w.looks deeds) (w.run deeds) := by
  induction deeds generalizing w past with
  | nil => simpa using h
  | cons x deeds ih =>
      have hrest := ih (h.step x)
      rwa [List.append_assoc] at hrest

/-! ## What failsafes leave alone -/

/-- No failsafe touches the traffic. -/
theorem traffic_run (w : Watch ε) (deeds : List (Deed ε)) :
    (w.run deeds).traffic = w.traffic.run (deeds.filterMap Deed.act?) := by
  induction deeds generalizing w with
  | nil => rfl
  | cons x deeds ih =>
      rw [run_cons, ih]
      cases x with
      | act a => rfl
      | install => rfl
      | check k armed =>
          cases hf : w.failsafes[k]? <;>
            simp [Watch.step, hf, Deed.act?, List.filterMap_cons]

/-- A failsafe is never taken away. -/
theorem length_failsafes_run (w : Watch ε) (deeds : List (Deed ε)) :
    (w.run deeds).failsafes.length =
      w.failsafes.length + deeds.countP Deed.isInstall := by
  induction deeds generalizing w with
  | nil => rfl
  | cons x deeds ih =>
      rw [run_cons, ih]
      cases x with
      | act a => rfl
      | install =>
          simp [Watch.step, Deed.isInstall, List.countP_cons]
          omega
      | check k armed =>
          cases hf : w.failsafes[k]? <;> simp [Watch.step, hf, Deed.isInstall]

/-- The two watches differ at most in what failsafes other than `k` remember. -/
structure Agree (k : Nat) (w w' : Watch ε) : Prop where
  traffic : w.traffic = w'.traffic
  installed : w.failsafes.length = w'.failsafes.length
  same : w.failsafes[k]? = w'.failsafes[k]?

omit [Endpoint ε] in
theorem Agree.refl (k : Nat) (w : Watch ε) : Agree k w w := ⟨rfl, rfl, rfl⟩

/-- What concerns `k` has `k` see and say the same. -/
theorem Agree.step {k : Nat} {w w' : Watch ε} (h : Agree k w w') {x : Deed ε}
    (hx : x.concerns k = true) :
    (w.step x).2 = (w'.step x).2 ∧ Agree k (w.step x).1 (w'.step x).1 := by
  obtain ⟨traffic, failsafes⟩ := w
  obtain ⟨traffic', failsafes'⟩ := w'
  obtain ⟨rfl, hinstalled, hsame⟩ := h
  dsimp only at hinstalled hsame
  cases x with
  | act a => exact ⟨rfl, rfl, hinstalled, hsame⟩
  | install =>
      refine ⟨rfl, rfl, by simp [Watch.step, hinstalled], ?_⟩
      simp only [Watch.step, List.getElem?_append, hinstalled, hsame]
  | check j armed =>
      obtain rfl : j = k := by simpa [Deed.concerns] using hx
      cases hf : failsafes[j]? with
      | none =>
          have hf' : failsafes'[j]? = none := hsame.symm.trans hf
          rw [step_check_of_none hf, step_check_of_none hf']
          exact ⟨rfl, rfl, hinstalled, hsame⟩
      | some f =>
          have hf' : failsafes'[j]? = some f := hsame.symm.trans hf
          rw [step_check hf, step_check hf']
          refine ⟨rfl, rfl, by simpa using hinstalled, ?_⟩
          simp [List.getElem?_set, hinstalled]

/-- The look of another failsafe changes nothing for `k`. -/
theorem Agree.step_other {k : Nat} {w w' : Watch ε} (h : Agree k w w')
    {x : Deed ε} (hx : x.concerns k = false) :
    Look.of k (w.step x).2.toList = [] ∧ Agree k (w.step x).1 w' := by
  cases x with
  | act a => cases hx
  | install => cases hx
  | check j armed =>
      have hjk : j ≠ k := by simpa [Deed.concerns] using hx
      cases hf : w.failsafes[j]? with
      | none =>
          rw [step_check_of_none hf]
          exact ⟨rfl, h⟩
      | some f =>
          rw [step_check hf]
          refine ⟨by simp [Look.of, hjk], h.traffic, by
              simpa using h.installed, ?_⟩
          rw [← h.same]
          exact List.getElem?_set_ne hjk

/-- **Failsafes do not influence each other.** -/
theorem Agree.looks {k : Nat} {w w' : Watch ε} (h : Agree k w w')
    (deeds : List (Deed ε)) :
    Look.of k (w'.looks (deeds.filter (·.concerns k))) =
      Look.of k (w.looks deeds) := by
  induction deeds generalizing w w' with
  | nil => rfl
  | cons x deeds ih =>
      cases hx : x.concerns k with
      | true =>
          obtain ⟨hlook, hagree⟩ := h.step hx
          rw [List.filter_cons_of_pos hx, looks_cons, looks_cons, hlook]
          unfold Look.of at ih ⊢
          rw [List.filter_append, List.filter_append, ih hagree]
      | false =>
          obtain ⟨hlook, hagree⟩ := h.step_other hx
          rw [List.filter_cons_of_neg (by simp [hx]), looks_cons]
          unfold Look.of at ih hlook ⊢
          rw [List.filter_append, hlook, List.nil_append]
          exact ih hagree

/-- **When a failsafe asks for a disarm.**  Let anything happen to the links,
and let any failsafes be installed and look whenever they like.  Then failsafe
`k`, if it looks now, asks for a disarm exactly when the vehicle is armed, no
link is active, and it has not asked before since it last looked while a link
was.  So it never asks while a link is active, a link has been seen between any
two times that it asks, and the first look for an armed vehicle since then does
ask, if it sees no link.  Its looks are the same without those of all other
failsafes, and the traffic is the same without any failsafe. -/
theorem failsafe_asks_once (d : Downlink) (deeds : List (Deed ε)) (k : Nat) :
    let w := (start d).run deeds
    let past := Look.of k ((start d).looks deeds)
    (k < deeds.countP Deed.isInstall → ∀ armed, ∃ action,
        (w.step (.check k armed)).2 =
          some ⟨k, armed, w.traffic.isLinked, action⟩ ∧
          (action = .disarm ↔ armed = true ∧
            (∀ c ∈ w.traffic.courses, c.link.state ≠ .active) ∧
            ∀ l ∈ Look.sinceLinked past, l.action ≠ .disarm)) ∧
      (∀ l ∈ past, l.linked = true → l.action = .none) ∧
      (∀ before a between b after,
        past = before ++ a :: (between ++ b :: after) →
        a.action = .disarm → b.action = .disarm →
        ∃ l ∈ between, l.linked = true) ∧
      (∀ before l after, past = before ++ l :: after →
        l.armed = true → l.linked = false →
        (∀ e ∈ Look.sinceLinked before, e.armed = false) → l.action = .disarm) ∧
      Look.of k ((start d).looks (deeds.filter (·.concerns k))) = past ∧
      w.traffic = (Traffic.start d).run (deeds.filterMap Deed.act?) := by
  intro w past
  have hw : Kept ([] ++ (start d).looks deeds) w := (kept_start d).run deeds
  rw [List.nil_append] at hw
  have hlaw : Look.Lawful past := hw.lawful k
  refine ⟨?_, fun _ hl => hlaw.none_of_linked hl, ?_, ?_,
    (Agree.refl k _).looks deeds, traffic_run _ deeds⟩
  · intro hk armed
    have hlength : w.failsafes.length = 0 + deeds.countP Deed.isInstall :=
      length_failsafes_run (start d) deeds
    have hlt : k < w.failsafes.length := by omega
    have hf : w.failsafes[k]? = some w.failsafes[k] :=
      List.getElem?_eq_getElem hlt
    obtain ⟨hdue, _⟩ :=
      (hw.recalls k _ hf).check hw.counted.isLinked_iff k armed
    refine ⟨_, by rw [step_check hf], ?_⟩
    rw [← Traffic.isLinked_eq_false_iff]
    exact hdue
  · intro before a between b after hsplit ha hb
    exact hlaw.linked_between hsplit ha hb
  · intro before l after hsplit harmed hlinked hfirst
    exact hlaw.disarm_of_first hsplit harmed hlinked hfirst

end Watch

end GroundLink
