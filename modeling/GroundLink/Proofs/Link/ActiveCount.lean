import GroundLink.Link.Traffic
import GroundLink.Proofs.Link.Move
import Mathlib.Algebra.GroupWithZero.Nat
import Mathlib.Data.List.Count

/-!
# The count of active links

The failsafe reads one number that all links change, each in three places and
under two different flags.  The number is right because of what each link keeps
for itself (`Turn.Orderly`): its state and its tracker agree on whether the
other side is there, and its record has one raise more than it has lowerings
exactly while it is active.  So a link raises the count when it enters it and
lowers the count when it leaves it, never twice, and a lowering always finds a
link to take out.

`Traffic.Counted.run` carries this through any order of acts.
-/

namespace GroundLink

def Event.isRaise : Event → Bool
  | .raised => true
  | _ => false

def Event.isLowering : Event → Bool
  | .lowered => true
  | _ => false

/-- What does not concern the count raises nothing. -/
theorem Event.not_isRaise {e : Event} (h : e.isShift = false) :
    e.isRaise = false := by
  cases e with
  | raised => cases h
  | _ => rfl

/-- What does not concern the count lowers nothing. -/
theorem Event.not_isLowering {e : Event} (h : e.isShift = false) :
    e.isLowering = false := by
  cases e with
  | lowered => cases h
  | _ => rfl

namespace Turn

variable {ε : Type}

/-- What the link contributes to the count. -/
def weight (t : Turn ε) : Nat := if t.link.state = .active then 1 else 0

/-- The record balances: one raise more than lowerings while the link is
active. -/
def Balanced (t : Turn ε) : Prop :=
  t.events.countP Event.isRaise = t.events.countP Event.isLowering + t.weight

/-- A link that has not ended: state and tracker agree, and the record
balances. -/
structure Orderly (t : Turn ε) : Prop where
  live : t.link.state ≠ .terminated
  agree : t.link.state = .active ↔ t.link.tracker.active = true
  balanced : t.Balanced

/-- From `t` to `t'` the count has changed by what the link's part in it has. -/
def CountsTo (t t' : Turn ε) : Prop :=
  t'.board.active.links + t.weight = t.board.active.links + t'.weight

theorem weight_of_active {t : Turn ε} (h : t.link.state = .active) :
    t.weight = 1 := if_pos h

theorem weight_of_not_active {t : Turn ε} (h : t.link.state ≠ .active) :
    t.weight = 0 := if_neg h

/-- An event that does not concern the count leaves the balance alone. -/
theorem Balanced.append {t t' : Turn ε} (h : t.Balanced) {events : List Event}
    (hevents : t'.events = t.events ++ events)
    (hplain : ∀ e ∈ events, e.isShift = false)
    (hweight : t'.weight = t.weight) :
    t'.Balanced := by
  have hraise : events.countP Event.isRaise = 0 :=
    List.countP_eq_zero.mpr fun e he => by
      simp [Event.not_isRaise (hplain e he)]
  have hlower : events.countP Event.isLowering = 0 :=
    List.countP_eq_zero.mpr fun e he => by
      simp [Event.not_isLowering (hplain e he)]
  unfold Balanced at h ⊢
  rw [hevents, hweight, List.countP_append, List.countP_append, hraise, hlower]
  exact h

/-- What neither the count nor the link's part in it has to do with. -/
theorem Orderly.of_same {t t' : Turn ε} (h : t.Orderly) (events : List Event)
    (hstate : t'.link.state = t.link.state)
    (htracker : t'.link.tracker.active = t.link.tracker.active)
    (hactive : t'.board.active = t.board.active)
    (hevents : t'.events = t.events ++ events)
    (hplain : ∀ e ∈ events, e.isShift = false) :
    t'.Orderly ∧ CountsTo t t' := by
  have hweight : t'.weight = t.weight := by simp only [weight, hstate]
  refine ⟨⟨hstate ▸ h.live, ?_, h.balanced.append hevents hplain hweight⟩, ?_⟩
  · rw [hstate, htracker]
    exact h.agree
  · simp only [CountsTo, hactive, hweight]

theorem orderly_greet {t : Turn ε} (h : t.Orderly) (now : Nat)
    (absent : t.link.tracker.active = false) :
    (t.greet now).Orderly ∧ CountsTo t (t.greet now) := by
  have hstate : t.link.state ≠ .active := by
    intro hactive
    rw [h.agree.mp hactive] at absent
    cases absent
  have hbefore := weight_of_not_active hstate
  have hafter : (t.greet now).weight = 1 := weight_of_active rfl
  have hbalanced := h.balanced
  refine ⟨⟨by simp [greet, note], by simp [greet, note, Tracker.heartbeat], ?_⟩,
    ?_⟩
  · unfold Balanced at hbalanced ⊢
    simp only [greet, note, List.countP_append] at hafter ⊢
    rw [hbalanced, hbefore, hafter]
    rfl
  · unfold CountsTo
    rw [hbefore, hafter]
    rfl

/-- The count has this link in it, so that there is something to lower. -/
theorem orderly_miss {t : Turn ε} (h : t.Orderly) (now : Nat)
    (late : (t.link.tracker.poll now).2 = .deactivated)
    (counted : t.weight ≤ t.board.active.links) :
    (t.miss now).Orderly ∧ CountsTo t (t.miss now) := by
  have hpresent : t.link.tracker.active = true := by
    cases hactive : t.link.tracker.active with
    | true => rfl
    | false =>
        simp only [Tracker.poll, hactive] at late
        split at late <;> cases late
  have hgone : (t.link.tracker.poll now).1.active = false := by
    simp only [Tracker.poll] at late ⊢
    split at late
    · cases late
    · next hlate => rw [if_neg hlate]
  have hbefore := weight_of_active (h.agree.mpr hpresent)
  have hafter : (t.miss now).weight = 0 :=
    weight_of_not_active (by simp [miss, note])
  have hbalanced := h.balanced
  refine ⟨⟨by simp [miss, note], by simp [miss, note, hgone], ?_⟩, ?_⟩
  · unfold Balanced at hbalanced ⊢
    simp only [miss, note, List.countP_append] at hafter ⊢
    rw [hbalanced, hbefore, hafter]
    rfl
  · have hlinks : (t.miss now).board.active.links = t.board.active.links - 1 :=
      rfl
    unfold CountsTo
    omega

variable [Endpoint ε] {chunk : Nat}

/-- **One move** keeps a link orderly and changes the count by as much as the
link's part in it. -/
theorem Move.orderly {t t' : Turn ε} (hmove : Move chunk t t') (h : t.Orderly)
    (counted : t.weight ≤ t.board.active.links) :
    t'.Orderly ∧ CountsTo t t' := by
  cases hmove with
  | @note e plain =>
      exact h.of_same [e] rfl rfl rfl rfl (by simpa using plain)
  | count => exact h.of_same [] rfl rfl rfl (by simp [Turn.count]) (by simp)
  | flag =>
      exact h.of_same [] rfl rfl rfl (by simp [setChannelActive]) (by simp)
  | refill =>
      refine h.of_same [] ?_ ?_ ?_ ?_ (by simp)
      all_goals unfold Turn.refill; split <;> simp
  | write =>
      exact h.of_same [] rfl rfl rfl (by simp [wrote, Turn.count]) (by simp)
  | fault =>
      refine h.of_same [] ?_ ?_ ?_ ?_ (by simp)
      all_goals unfold writeFailed; dsimp only; split <;> simp [Turn.count]
  | read => exact h.of_same [] rfl rfl rfl (by simp) (by simp)
  | collect => exact h.of_same [] rfl rfl rfl (by simp) (by simp)
  | prolong now present =>
      refine h.of_same [] rfl ?_ rfl (by simp) (by simp)
      simp [Tracker.heartbeat, present]
  | appear now absent => exact orderly_greet h now absent
  | vanish now late => exact orderly_miss h now late counted

/-- Orderly, and counted if it is active. -/
def InCount (t : Turn ε) : Prop := t.Orderly ∧ t.weight ≤ t.board.active.links

omit [Endpoint ε] in
/-- A link that counts is in the count after its work as well. -/
theorem CountsTo.inCount {t t' : Turn ε} (hcount : CountsTo t t')
    (counted : t.weight ≤ t.board.active.links) :
    t'.weight ≤ t'.board.active.links := by
  unfold CountsTo at hcount
  omega

/-- Many moves keep the count as one does. -/
theorem Moves.orderly {t t' : Turn ε} (h : Moves chunk t t') (ht : t.InCount) :
    t'.InCount ∧ CountsTo t t' := by
  refine h.keep (P := fun a => a.InCount ∧ CountsTo t a) ?_ ⟨ht, rfl⟩
  intro a b hmove ⟨⟨horderly, hin⟩, hcount⟩
  obtain ⟨horderly', hcount'⟩ := hmove.orderly horderly hin
  refine ⟨⟨horderly', hcount'.inCount hin⟩, ?_⟩
  unfold CountsTo at hcount hcount' ⊢
  omega

omit [Endpoint ε] in
/-- **The end** takes an active link out of the count and leaves the count alone
otherwise. -/
theorem orderly_release {t : Turn ε} (h : t.InCount) :
    t.release.Balanced ∧ t.release.weight = 0 ∧ CountsTo t t.release := by
  obtain ⟨horderly, hin⟩ := h
  have hbalanced := horderly.balanced
  have hafter : t.release.weight = 0 := weight_of_not_active (by simp)
  unfold Balanced at hbalanced ⊢
  by_cases hactive : t.link.state = .active
  · obtain ⟨hboard, hevents⟩ := release_of_active hactive
    have hbefore := weight_of_active hactive
    refine ⟨?_, hafter, ?_⟩
    · rw [hevents, hafter, List.countP_append, List.countP_append, hbalanced,
        hbefore]
      rfl
    · have hlinks : t.release.board.active.links =
          t.board.active.links - 1 := by
        rw [hboard]
        rfl
      unfold CountsTo
      omega
  · obtain ⟨hboard, hevents⟩ := release_of_not_active hactive
    have hbefore := weight_of_not_active hactive
    refine ⟨?_, hafter, ?_⟩
    · rw [hevents, hafter, hbalanced, hbefore]
    · unfold CountsTo
      rw [hboard, hbefore, hafter]

omit [Endpoint ε] in
/-- What a link says after its release does not concern the count. -/
theorem balanced_leave (exit : Exit) (cue : Cue) {t : Turn ε}
    (h : t.release.Balanced) :
    (t.leave exit cue).1.Balanced := by
  refine h.append (events_leave exit cue t) ?_ rfl
  intro e he
  rcases List.mem_cons.mp he with rfl | he
  · rfl
  · rcases List.mem_append.mp he with he | he
    · exact isShift_lastWords cue he
    · obtain rfl := List.mem_singleton.mp he
      rfl

end Turn

namespace Course

variable {ε : Type}

/-- A link on its way: it has ended when it waits for nothing more, and until
then its state and its tracker agree; its record balances throughout. -/
structure Orderly (c : Course ε) : Prop where
  past : c.stand.isPast = true ↔ c.link.state = .terminated
  agree : c.link.state ≠ .terminated →
    (c.link.state = .active ↔ c.link.tracker.active = true)
  balanced : c.events.countP Event.isRaise =
    c.events.countP Event.isLowering + if c.isActive then 1 else 0

theorem weight_turn (c : Course ε) (b : Board) :
    (c.turn b).weight = if c.isActive then 1 else 0 := by
  by_cases h : c.link.state = .active <;> simp [Turn.weight, turn, isActive, h]

/-- An orderly link at work. -/
theorem Orderly.turn {c : Course ε} (h : c.Orderly)
    (hpast : c.stand.isPast = false) (b : Board) :
    (c.turn b).Orderly := by
  have hlive : c.link.state ≠ .terminated := by
    intro hterminated
    rw [h.past.mpr hterminated] at hpast
    cases hpast
  refine ⟨hlive, h.agree hlive, ?_⟩
  unfold Turn.Balanced
  rw [c.weight_turn b]
  exact h.balanced

/-- An orderly link after a stretch of work that leaves it waiting. -/
theorem Orderly.after_moves {c : Course ε} {t : Turn ε} {stand : Stand}
    (h : t.Orderly) (hstand : stand.isPast = false) :
    (c.after t stand).Orderly := by
  have hbalanced := h.balanced
  unfold Turn.Balanced Turn.weight at hbalanced
  refine ⟨?_, fun _ => h.agree, ?_⟩
  · simp only [after, hstand, Bool.false_eq_true, false_iff]
    exact h.live
  · simpa [after, isActive] using hbalanced

/-- An orderly link after its end. -/
theorem Orderly.after_end {c : Course ε} {t : Turn ε} {stand : Stand}
    (h : t.Balanced) (hstate : t.link.state = .terminated)
    (hstand : stand.isPast = true) :
    (c.after t stand).Orderly := by
  unfold Turn.Balanced Turn.weight at h
  refine ⟨?_, ?_, ?_⟩
  · simp [after, hstand, hstate]
  · intro hlive
    exact absurd hstate hlive
  · simpa [after, isActive] using h

/-- A link that has ended and is done waiting. -/
theorem Orderly.stay {c : Course ε} (h : c.Orderly)
    (hpast : c.stand.isPast = true) (b : Board) :
    (c.after (c.turn b) .finished).Orderly :=
  ⟨⟨fun _ => h.past.mp hpast, fun _ => rfl⟩, h.agree, h.balanced⟩

variable [Endpoint ε]

/-- **A stretch of work** keeps a link orderly, and changes the count by as much
as the link's part in it. -/
theorem Orderly.resume {c : Course ε} (h : c.Orderly) (cue : Cue) (b : Board)
    (counted : (c.turn b).weight ≤ b.active.links) :
    (c.after ((c.turn b).resume c.config cue c.stand).1
        ((c.turn b).resume c.config cue c.stand).2).Orderly ∧
      Turn.CountsTo (c.turn b) ((c.turn b).resume c.config cue c.stand).1 := by
  rcases c.stand.cases with hbegun | hunder | hpast
  · have hturn := h.turn (by rw [hbegun]; rfl) b
    -- signing the channel touches neither the link nor the count
    have hsign : (c.turn b).sign.Orderly ∧
        Turn.CountsTo (c.turn b) (c.turn b).sign :=
      hturn.of_same [] rfl rfl rfl (by simp [Turn.sign]) (by simp)
    have hbegin := Turn.moves_begin c.config.writeChunk (c.turn b)
    obtain ⟨⟨horderly, _⟩, hcount⟩ := hbegin.orderly ⟨hsign.1, counted⟩
    rw [hbegun]
    exact ⟨Orderly.after_moves horderly rfl, hcount⟩
  · have hturn := h.turn (Stand.not_isPast hunder) b
    rcases Turn.resume_cases c.config cue (c.turn b) hunder with
      ⟨hmoves, hstand⟩ | ⟨t₁, exit, hmoves, hleave⟩
    · obtain ⟨⟨horderly, _⟩, hcount⟩ := hmoves.orderly ⟨hturn, counted⟩
      exact ⟨Orderly.after_moves horderly (Stand.not_isPast hstand), hcount⟩
    · obtain ⟨hin, hcount⟩ := hmoves.orderly ⟨hturn, counted⟩
      obtain ⟨hbalanced, hweight, hcount'⟩ := Turn.orderly_release hin
      rw [hleave]
      refine ⟨Orderly.after_end (Turn.balanced_leave exit cue hbalanced)
        (by simp) rfl, ?_⟩
      unfold Turn.CountsTo at hcount hcount' ⊢
      have hsame : (t₁.leave exit cue).1.weight = t₁.release.weight := rfl
      rw [Turn.board_leave, hsame]
      omega
  · rw [Turn.resume_past c.config cue (c.turn b) hpast]
    exact ⟨h.stay hpast b, rfl⟩

omit [Endpoint ε] in
/-- **Being dropped** takes a link out of the count if it is active, wherever it
waits. -/
theorem Orderly.drop {c : Course ε} (h : c.Orderly) (b : Board)
    (counted : (c.turn b).weight ≤ b.active.links) :
    (c.after (c.turn b).release .finished).Orderly ∧
      Turn.CountsTo (c.turn b) (c.turn b).release := by
  by_cases hpast : c.stand.isPast = true
  · rw [Turn.release_of_past (t := c.turn b) (h.past.mp hpast)]
    exact ⟨h.stay hpast b, rfl⟩
  · have hturn := h.turn (by simpa using hpast) b
    obtain ⟨hbalanced, _, hcount⟩ := Turn.orderly_release ⟨hturn, counted⟩
    exact ⟨Orderly.after_end hbalanced (by simp) rfl, hcount⟩

omit [Endpoint ε] in
/-- A link that has been connected a moment ago. -/
theorem orderly_connect (name : String) (claim : Claim) (transport : Transport)
    (policy : Policy) (config : LinkConfig) (now : Nat) (endpoint : ε) :
    ({ link := .connect name claim transport policy config now
       config, endpoint } : Course ε).Orderly :=
  ⟨by simp [Stand.isPast, Link.connect],
    fun _ => by simp [Link.connect, Tracker.begin], rfl⟩

end Course

namespace Traffic

variable {ε : Type} {w : Traffic ε}

/-- The count is right: every link is orderly, and the count is the number of
those that are active. -/
structure Counted (w : Traffic ε) : Prop where
  count : w.active.links = w.courses.countP Course.isActive
  orderly : ∀ c ∈ w.courses, c.Orderly

/-- How often the links on their way have raised the count. -/
def raises (w : Traffic ε) : Nat :=
  (w.courses.map (·.events.countP Event.isRaise)).sum

/-- How often the links on their way have lowered the count. -/
def lowerings (w : Traffic ε) : Nat :=
  (w.courses.map (·.events.countP Event.isLowering)).sum

/-- Before the first link the count is zero, and nobody is in it. -/
theorem counted_start (d : Downlink) : (start (ε := ε) d).Counted :=
  ⟨rfl, fun _ hc => by simp [start] at hc⟩

/-- An active link is in the count. -/
theorem Counted.weight_le (h : w.Counted) {k : Nat} {c : Course ε}
    (hk : w.courses[k]? = some c) :
    (c.turn w.board).weight ≤ w.board.active.links := by
  have hlinks : w.board.active.links = w.courses.countP Course.isActive :=
    h.count
  rw [c.weight_turn, hlinks]
  split
  · next hactive =>
      exact List.countP_pos_iff.mpr ⟨c, List.mem_of_getElem? hk, hactive⟩
  · exact Nat.zero_le _

/-- What a link does to the count is what becomes of its part in it. -/
theorem Counted.commit (h : w.Counted) {k : Nat} {c : Course ε}
    (hk : w.courses[k]? = some c) {t : Turn ε} {stand : Stand}
    (horderly : (c.after t stand).Orderly)
    (hcount : Turn.CountsTo (c.turn w.board) t) :
    (w.commit k c t stand).Counted := by
  have hin := h.weight_le hk
  obtain ⟨hlt, hget⟩ := List.getElem?_eq_some_iff.mp hk
  refine ⟨?_, ?_⟩
  · have hlinks : w.board.active.links = w.courses.countP Course.isActive :=
      h.count
    have hafter := Course.weight_turn (c.after t stand) t.board
    have hbefore := Course.weight_turn c w.board
    have hsame : ((c.after t stand).turn t.board).weight = t.weight := rfl
    have hboard : (c.turn w.board).board = w.board := rfl
    unfold Turn.CountsTo at hcount
    simp only [Traffic.commit, List.countP_set hlt, hget]
    rw [hboard] at hcount
    omega
  · intro c' hc'
    rcases List.mem_or_eq_of_mem_set hc' with hc' | rfl
    · exact h.orderly c' hc'
    · exact horderly

variable [Endpoint ε]

/-- A link's work keeps the link orderly and changes the count by what becomes
of the link's part in it. -/
theorem Counted.work (h : w.Counted) {k : Nat} {c : Course ε} {a : Act ε}
    {t : Turn ε} {stand : Stand} (hk : w.courses[k]? = some c)
    (hwork : Work k c w.board a t stand) :
    (c.after t stand).Orderly ∧ Turn.CountsTo (c.turn w.board) t := by
  have hc := h.orderly c (List.mem_of_getElem? hk)
  cases hwork with
  | resume cue => exact hc.resume cue w.board (h.weight_le hk)
  | drop => exact hc.drop w.board (h.weight_le hk)
  | far f => exact ⟨⟨hc.past, hc.agree, hc.balanced⟩, rfl⟩

/-- **One act** keeps the count right. -/
theorem Counted.act (h : w.Counted) (a : Act ε) : (w.act a).Counted := by
  rcases w.act_cases a with ⟨_, hsame⟩ | ⟨k, c, t, stand, hk, hwork, heq⟩ |
    ⟨name, policy, config, now, endpoint, pool, claim, _, _, heq⟩ | ⟨op, _, heq⟩
  · rwa [hsame]
  · obtain ⟨horderly, hcount⟩ := h.work hk hwork
    rw [heq]
    exact h.commit hk horderly hcount
  · rw [heq]
    refine ⟨?_, ?_⟩
    · simp [h.count, Course.isActive, Link.connect]
    · intro c hc
      rcases List.mem_append.mp hc with hc | hc
      · exact h.orderly c hc
      · obtain rfl := List.mem_singleton.mp hc
        exact Course.orderly_connect ..
  · rw [heq]
    exact ⟨h.count, h.orderly⟩

/-- **Any acts in any order** keep the count right. -/
theorem Counted.run (h : w.Counted) (acts : List (Act ε)) :
    (w.run acts).Counted := by
  induction acts generalizing w with
  | nil => exact h
  | cons a acts ih => exact ih (h.act a)

omit [Endpoint ε] in
/-- What is on record adds up to the number of links that are active. -/
theorem sum_raises {courses : List (Course ε)} (h : ∀ c ∈ courses, c.Orderly) :
    (courses.map (·.events.countP Event.isRaise)).sum =
      (courses.map (·.events.countP Event.isLowering)).sum +
        courses.countP Course.isActive := by
  induction courses with
  | nil => rfl
  | cons c rest ih =>
      have hc := (h c List.mem_cons_self).balanced
      have hrest := ih fun c' hc' => h c' (List.mem_cons_of_mem c hc')
      simp only [List.map_cons, List.sum_cons, List.countP_cons]
      omega

/-! ## Links that have ended -/

/-- Link `k` is there and has ended. -/
def HasEnded (w : Traffic ε) (k : Nat) : Prop :=
  ∃ c, w.courses[k]? = some c ∧ c.link.state = .terminated

/-- What an ended link does changes nothing about the links or the count. -/
theorem Counted.act_ended (h : w.Counted) {k : Nat} (hended : w.HasEnded k)
    (cue : Cue) :
    (w.act (.resume k cue)).active = w.active ∧
    (w.act (.drop k)).active = w.active := by
  obtain ⟨c, hk, hterminated⟩ := hended
  have hpast := (h.orderly c (List.mem_of_getElem? hk)).past.mpr hterminated
  refine ⟨?_, ?_⟩
  · rw [act_resume hk, Turn.resume_past c.config cue (c.turn w.board) hpast]
    rfl
  · rw [act_drop hk, Turn.release_of_past (t := c.turn w.board) hterminated]
    rfl

/-- Nothing that a link does brings it back once it has ended. -/
theorem Counted.terminated_work (h : w.Counted) {k : Nat} {c : Course ε}
    {a : Act ε} {t : Turn ε} {stand : Stand} (hk : w.courses[k]? = some c)
    (hwork : Work k c w.board a t stand)
    (hterminated : c.link.state = .terminated) :
    t.link.state = .terminated := by
  have hpast := (h.orderly c (List.mem_of_getElem? hk)).past.mpr hterminated
  cases hwork with
  | resume cue =>
      rw [Turn.resume_past c.config cue (c.turn w.board) hpast]
      exact hterminated
  | drop => simp
  | far f => exact hterminated

/-- **One act** does not bring an ended link back. -/
theorem Counted.hasEnded_act (h : w.Counted) {k : Nat} (hended : w.HasEnded k)
    (a : Act ε) :
    (w.act a).HasEnded k := by
  obtain ⟨c, hk, hterminated⟩ := hended
  rcases course_act hk a with hsame | ⟨t, stand, hwork, _, hk'⟩
  · exact ⟨c, hsame, hterminated⟩
  · exact ⟨c.after t stand, hk', h.terminated_work hk hwork hterminated⟩

/-- A link that has ended stays ended. -/
theorem Counted.hasEnded_run (h : w.Counted) {k : Nat} (hended : w.HasEnded k)
    (acts : List (Act ε)) : (w.run acts).HasEnded k := by
  induction acts generalizing w with
  | nil => exact hended
  | cons a acts ih => exact ih (h.act a) (h.hasEnded_act hended a)

end Traffic

/-- **The count is right in every state that can be reached.**  It is the number
of the links that are active.  What is on record balances, which could not be if
a lowering had ever found the count at zero.  A link is over in the same moment
as it is dropped or ends by itself, and an ended link stays so, whatever else
happens, and never changes the count again. -/
theorem active_links_counted [Endpoint ε] (d : Downlink) (acts : List (Act ε)) :
    let w := (Traffic.start d).run acts
    w.active.links = w.courses.countP Course.isActive ∧
      w.active.links + w.lowerings = w.raises ∧
      (∀ k, w.courses[k]?.isSome = true → (w.act (.drop k)).HasEnded k) ∧
      (∀ c ∈ w.courses, c.stand.isPast = true ↔ c.link.state = .terminated) ∧
      ∀ k, w.HasEnded k → ∀ more cue,
        let w' := w.run more
        w'.HasEnded k ∧ (w'.act (.resume k cue)).active = w'.active ∧
          (w'.act (.drop k)).active = w'.active := by
  intro w
  have hw : w.Counted := (Traffic.counted_start d).run acts
  refine ⟨hw.count, ?_, ?_, fun c hc => (hw.orderly c hc).past, ?_⟩
  · have hsum := Traffic.sum_raises hw.orderly
    have hcount := hw.count
    unfold Traffic.lowerings Traffic.raises
    omega
  · intro k hsome
    obtain ⟨c, hk⟩ := Option.isSome_iff_exists.mp hsome
    refine ⟨c.after (c.turn w.board).release .finished, ?_, ?_⟩
    · rw [Traffic.act_drop hk, Traffic.courses_commit hk, if_pos rfl]
    · exact congrArg Link.state (Turn.link_release _)
  · intro k hended more cue w'
    have hended' := hw.hasEnded_run hended more
    exact ⟨hended', (hw.run more).act_ended hended' cue⟩

end GroundLink
