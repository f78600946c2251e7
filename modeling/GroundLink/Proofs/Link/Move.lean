import GroundLink.Link.Stretch
import GroundLink.Proofs.Channel.Occupancy
import Mathlib.Logic.Relation

/-!
# The moves of a link

Whatever a link does between two waits is made of few kinds of moves, each with
the condition under which the link makes it.  `Turn.Move` lists them; what holds
of every move holds of every stretch of work:

* `Move.pool_cases` — a move that touches the table touches the claim that the
  link holds;
* `moves_begin` — beginning is to sign the channel and then to move;
* `resume_cases` — any later stretch is moves, and perhaps the end of the link;
* `resume_past` — a link that has ended does nothing;
* `resume_keep` — so what signing, moves and the end keep is kept throughout.

The end itself is not a move, since it happens once: `Turn.leave`.
-/

namespace GroundLink

/-- Whether the event says that the count of active links changes. -/
def Event.isShift : Event → Bool
  | .raised | .lowered => true
  | _ => false

/-- Whether the link has ended. -/
def Stand.isPast : Stand → Bool
  | .ending | .finished => true
  | _ => false

/-- Whether the link has begun and not ended. -/
def Stand.isUnderWay : Stand → Bool
  | .connected | .ending | .finished => false
  | _ => true

/-- A link has not begun, or is under way, or has ended. -/
theorem Stand.cases (stand : Stand) :
    stand = .connected ∨ stand.isUnderWay = true ∨ stand.isPast = true := by
  cases stand <;> simp [isUnderWay, isPast]

/-- A link that is under way is not past its end. -/
theorem Stand.not_isPast {stand : Stand} (h : stand.isUnderWay = true) :
    stand.isPast = false := by
  cases stand with
  | ending => cases h
  | finished => cases h
  | _ => rfl

namespace Turn

variable {ε : Type} {chunk : Nat}

/-- The link's name on its channel, whoever has the channel. -/
def sign (t : Turn ε) : Turn ε :=
  { t with
    board :=
      { t.board with
        pool := t.board.pool.setOwner t.link.channel t.link.name } }

/-- The other side shows up: the tracker knows it, and the link counts as
active. -/
def greet (now : Nat) (t : Turn ε) : Turn ε :=
  note { t with
    link :=
      { t.link with
        tracker := (t.link.tracker.heartbeat now).1, state := .active }
    board := { t.board with active := t.board.active.raise } } .raised

/-- The other side is gone: the tracker knows it, and the link no longer counts
as active. -/
def miss (now : Nat) (t : Turn ε) : Turn ε :=
  note { t with
    link :=
      { t.link with tracker := (t.link.tracker.poll now).1, state := .idle }
    board := { t.board with active := t.board.active.lower } } .lowered

variable [Endpoint ε]

/-- One move of a link that takes `chunk` bytes from its channel in one go.
Bytes are moved only while the link holds its channel. -/
inductive Move (chunk : Nat) : Turn ε → Turn ε → Prop
  /-- It tells its handler something that does not concern the count. -/
  | note (t : Turn ε) {e : Event} (plain : e.isShift = false) :
      Move chunk t (t.note e)
  /-- It counts something other than bytes written. -/
  | count (t : Turn ε) {f : LinkStats → LinkStats}
      (kept : ∀ s, (f s).bytesOut = s.bytesOut) :
      Move chunk t (t.count f)
  /-- It sets the flag of its channel, if the channel is still its own. -/
  | flag (t : Turn ε) (active : Bool) : Move chunk t (t.setChannelActive active)
  | refill (t : Turn ε) (held : t.board.pool.holds t.link.claim = true) :
      Move chunk t (t.refill chunk)
  | write (t : Turn ε) {endpoint : ε} {n : Nat}
      (held : t.board.pool.holds t.link.claim = true)
      (answer : Endpoint.write t.endpoint t.link.pending = (endpoint, .ok n)) :
      Move chunk t (wrote n { t with endpoint })
  | fault (t : Turn ε) {endpoint : ε} {fault : Fault}
      (held : t.board.pool.holds t.link.claim = true)
      (answer : Endpoint.write t.endpoint t.link.pending =
        (endpoint, .error fault)) :
      Move chunk t (writeFailed { t with endpoint }).1
  | read (t : Turn ε) (size : Nat) :
      Move chunk t { t with endpoint := (Endpoint.read t.endpoint size).1 }
  | collect (t : Turn ε) (decoder : Decoder) :
      Move chunk t { t with link := { t.link with decoder } }
  /-- A heartbeat comes while the other side is there. -/
  | prolong (t : Turn ε) (now : Nat) (present : t.link.tracker.active = true) :
      Move chunk t
        { t with
          link := { t.link with tracker := (t.link.tracker.heartbeat now).1 } }
  /-- A heartbeat comes while the other side is not there. -/
  | appear (t : Turn ε) (now : Nat) (absent : t.link.tracker.active = false) :
      Move chunk t (t.greet now)
  /-- The deadline passes while the other side is there. -/
  | vanish (t : Turn ε) (now : Nat)
      (late : (t.link.tracker.poll now).2 = .deactivated) :
      Move chunk t (t.miss now)

/-- Moves one after the other. -/
abbrev Moves (chunk : Nat) : Turn ε → Turn ε → Prop :=
  Relation.ReflTransGen (Move chunk)

/-- A property that every move keeps is kept by moves. -/
theorem Moves.keep {P : Turn ε → Prop} {t t' : Turn ε} (h : Moves chunk t t')
    (step : ∀ {a b : Turn ε}, Move chunk a b → P a → P b) (start : P t) :
    P t' := by
  induction h with
  | refl => exact start
  | tail _ hmove ih => exact step hmove ih

/-- No move makes the link another one. -/
theorem Move.same_link {t t' : Turn ε} (h : Move chunk t t') :
    t'.link.claim = t.link.claim ∧ t'.link.policy = t.link.policy ∧
      t'.link.name = t.link.name := by
  cases h with
  | refill => unfold Turn.refill; split <;> exact ⟨rfl, rfl, rfl⟩
  | fault => unfold writeFailed; dsimp only; split <;> exact ⟨rfl, rfl, rfl⟩
  | _ => exact ⟨rfl, rfl, rfl⟩

/-! ## Beginning -/

/-- A flag that is set on a condition. -/
theorem moves_flag (chunk : Nat) (t : Turn ε) (b : Bool) (active : Bool) :
    Moves chunk t (if b then t.setChannelActive active else t) := by
  cases b
  · exact .refl
  · exact .single (.flag t active)

/-- **Beginning** is to sign the channel and then to move. -/
theorem moves_begin (chunk : Nat) (t : Turn ε) :
    Moves chunk t.sign t.begin := by
  have hflag : Moves chunk t.sign
      (if t.link.policy.waitForHeartbeat then t.sign
        else t.sign.setChannelActive true) := by
    cases t.link.policy.waitForHeartbeat
    · exact .single (.flag _ true)
    · exact .refl
  exact hflag.tail (.note _ rfl)

/-! ## Writing -/

/-- Draining a channel does not change who holds it. -/
theorem holds_drain (p : Pool) (c : Claim) (i n : Nat) :
    (p.drain i n).1.holds c = p.holds c := by
  rw [Pool.drain_eq]
  exact p.holds_modify c i (fun _ => rfl) (fun _ => rfl)

omit [Endpoint ε] in
/-- A refill leaves the link its channel. -/
theorem holds_refill (t : Turn ε) :
    (t.refill chunk).board.pool.holds (t.refill chunk).link.claim =
      t.board.pool.holds t.link.claim := by
  unfold refill
  split
  · exact holds_drain _ _ _ _
  · rfl

/-- **What a move does to the channels.**  Nothing; or it sets the flag of the
link's own, if that still is its own; or, while the link holds it, it hands out
bytes that wait there. -/
theorem Move.pool_cases {t t' : Turn ε} (hmove : Move chunk t t') :
    t'.board.pool = t.board.pool ∨
      (∃ active, t'.board.pool =
        (t.board.pool.setClaimActive t.link.claim active).1) ∨
      (t.board.pool.holds t.link.claim = true ∧
        t'.board.pool = (t.board.pool.drain t.link.channel chunk).1) := by
  cases hmove with
  | flag active => exact Or.inr (Or.inl ⟨active, rfl⟩)
  | refill held =>
      unfold Turn.refill
      split
      · exact Or.inr (Or.inr ⟨held, rfl⟩)
      · exact Or.inl rfl
  | fault =>
      unfold writeFailed
      dsimp only
      split <;> exact Or.inl rfl
  | _ => exact Or.inl rfl

/-- **No move decides who has a channel.** -/
theorem Move.holds {t t' : Turn ε} (hmove : Move chunk t t') (c : Claim) :
    t'.board.pool.holds c = t.board.pool.holds c := by
  rcases hmove.pool_cases with heq | ⟨active, heq⟩ | ⟨_, heq⟩
  · rw [heq]
  · rw [heq, Pool.holds_setClaimActive]
  · rw [heq, holds_drain]

/-- Moves neither take a channel nor give one back. -/
theorem Moves.holds {t t' : Turn ε} (h : Moves chunk t t') (c : Claim) :
    t'.board.pool.holds c = t.board.pool.holds c :=
  h.keep (P := fun a => a.board.pool.holds c = t.board.pool.holds c)
    (fun hmove hsame => (hmove.holds c).trans hsame) rfl

/-- Writing is moves, as long as the link holds its channel. -/
theorem moves_drainWithin (attempts : Nat) (t : Turn ε)
    (held : t.board.pool.holds t.link.claim = true) :
    Moves chunk t (drainWithin chunk attempts t).1 := by
  induction attempts generalizing t with
  | zero => exact .refl
  | succ attempts ih =>
      have hheld : (t.refill chunk).board.pool.holds
          (t.refill chunk).link.claim = true := by
        rw [holds_refill, held]
      have hrefill : Moves chunk t (t.refill chunk) := .single (.refill t held)
      unfold drainWithin
      dsimp only
      split
      · exact hrefill
      · split
        · next endpoint hanswer => exact hrefill.tail (.write _ hheld hanswer)
        · next endpoint n _ hanswer =>
            exact (hrefill.tail (.write _ hheld hanswer)).trans (ih _ hheld)
        · next endpoint fault hanswer =>
            exact hrefill.tail (.fault _ hheld hanswer)

/-- A drain is a move for the chunk and one for the answer, again and again. -/
theorem moves_drain (chunk : Nat) (t : Turn ε)
    (held : t.board.pool.holds t.link.claim = true) :
    Moves chunk t (t.drain chunk).1 :=
  moves_drainWithin _ t held

/-! ## Reading -/

/-- A read is one move, and one more for its counter. -/
theorem moves_read (chunk size : Nat) (t : Turn ε) :
    Moves chunk t (t.read size).1 := by
  have hread :
      Moves chunk t { t with endpoint := (Endpoint.read t.endpoint size).1 } :=
    .single (.read t size)
  unfold Turn.read
  split
  · next endpoint bytes hanswer =>
      rw [hanswer] at hread
      dsimp only
      exact hread.tail (.count _ fun _ => rfl)
  · next endpoint fault hanswer =>
      rw [hanswer] at hread
      dsimp only
      split
      · exact hread
      · dsimp only
        exact hread.tail (.count _ fun _ => rfl)

/-- One byte changes the decoder and perhaps the count of frames. -/
theorem moves_decode (chunk : Nat) (b : UInt8) (t : Turn ε) :
    Moves chunk t (t.decode b).1 := by
  have hcollect : Moves chunk t
      { t with link := { t.link with decoder := (t.link.decoder.push b).1 } } :=
    .single (.collect t _)
  unfold decode
  dsimp only
  exact hcollect.tail (.count _ fun _ => rfl)

/-- A verdict is an event and perhaps a count. -/
theorem moves_judge (chunk : Nat) (f : Frame) (verdict : Except Refusal Unit)
    (t : Turn ε) :
    Moves chunk t (t.judge f verdict) := by
  have hnote : Moves chunk t (t.note (.frame f verdict)) :=
    .single (.note t rfl)
  unfold judge
  cases verdict with
  | ok => exact hnote
  | error refusal => exact hnote.tail (.count _ fun _ => rfl)

omit [Endpoint ε] in
/-- The flag of the channel follows the other side, where the policy says so. -/
theorem activate_eq (now : Nat) (t : Turn ε) :
    activate
      { t with
        link := { t.link with tracker := (t.link.tracker.heartbeat now).1 } } =
      (if t.link.policy.waitForHeartbeat
        then (t.greet now).setChannelActive true
        else t.greet now).note .activated := rfl

/-- A heartbeat says that the other side shows up exactly if it was not
there. -/
theorem heartbeat_eq_activated_iff {tracker : Tracker} {now : Nat} :
    (tracker.heartbeat now).2 = .activated ↔ tracker.active = false := by
  unfold Tracker.heartbeat
  cases tracker.active <;> simp

/-- A heartbeat is counted, prolongs the deadline or makes the other side
appear, and sets the flag then. -/
theorem moves_beat (chunk now : Nat) (t : Turn ε) :
    Moves chunk t (t.beat now) := by
  have hcount : Moves chunk t
      (t.count fun s => { s with heartbeats := s.heartbeats + 1 }) :=
    .single (.count t fun _ => rfl)
  unfold beat
  dsimp only
  split
  · next habsent =>
      have hactive : t.link.tracker.active = false :=
        heartbeat_eq_activated_iff.mp habsent
      have hflag := (hcount.tail (.appear _ now hactive)).trans
        (moves_flag chunk _ t.link.policy.waitForHeartbeat true)
      rw [activate_eq]
      exact hflag.tail (.note _ rfl)
  · next hpresent =>
      have hactive : t.link.tracker.active = true := by
        have hnot := mt heartbeat_eq_activated_iff.mpr hpresent
        simpa [count] using hnot
      exact hcount.tail (.prolong _ now hactive)

/-! ## Looking at the clock -/

/-- A deadline that passes while nobody is there changes nothing. -/
theorem poll_eq_self {tracker : Tracker} {now : Nat}
    (h : (tracker.poll now).2 ≠ .deactivated) :
    (tracker.poll now).1 = tracker := by
  unfold Tracker.poll at h ⊢
  split
  · rfl
  · next hlate =>
      cases hactive : tracker.active with
      | true => simp [hlate, hactive] at h
      | false => rw [← hactive]

omit [Endpoint ε] in
/-- A look at the clock that does not find the other side gone leaves the link
as it was. -/
theorem checkDeadline_eq {now : Nat} {t : Turn ε}
    (h : (t.link.tracker.poll now).2 ≠ .deactivated) :
    (t.checkDeadline now).1 = t := by
  have htracker := poll_eq_self h
  unfold checkDeadline
  dsimp only
  split
  · next hlate => exact absurd hlate h
  · rw [htracker]
  · rw [htracker]

/-- The deadline passes by `vanish`, or else the poll changes nothing. -/
theorem moves_checkDeadline (chunk now : Nat) (t : Turn ε) :
    Moves chunk t (t.checkDeadline now).1 := by
  by_cases hlate : (t.link.tracker.poll now).2 = .deactivated
  · have hflag := (Relation.ReflTransGen.single (.vanish t now hlate)).trans
      (moves_flag chunk _ t.link.policy.waitForHeartbeat false)
    have hmoves := hflag.tail (.note _ (e := .idled) rfl)
    unfold checkDeadline
    dsimp only
    rw [hlate]
    exact hmoves
  · rw [checkDeadline_eq hlate]

/-! ## Stretches of work -/

/-- A stretch of work is moves, and then the link waits or ends. -/
def Stretch (chunk : Nat) (cue : Cue) (t : Turn ε) (result : Turn ε × Stand) :
    Prop :=
  (Moves chunk t result.1 ∧ result.2.isUnderWay = true) ∨
    ∃ t₁ exit, Moves chunk t t₁ ∧ result = t₁.leave exit cue

/-- Moves before a stretch belong to it. -/
theorem Stretch.after {cue : Cue} {t t₁ : Turn ε} {result : Turn ε × Stand}
    (h : Moves chunk t t₁) (hrest : Stretch chunk cue t₁ result) :
    Stretch chunk cue t result := by
  rcases hrest with ⟨hmoves, hstand⟩ | ⟨t₂, exit, hmoves, hleave⟩
  · exact Or.inl ⟨h.trans hmoves, hstand⟩
  · exact Or.inr ⟨t₂, exit, h.trans hmoves, hleave⟩

/-- A tick ends with a look at the deadline, and with `leave` if that is a
reason to end. -/
theorem stretch_endTick (now : Nat) (cue : Cue) (t : Turn ε) :
    Stretch chunk cue t (t.endTick now cue) := by
  have hcount : Moves chunk t
      (t.count fun s =>
        { s with parseErrors := t.link.decoder.stats.parseErrors }) :=
    .single (.count t fun _ => rfl)
  have hcheck := hcount.trans (moves_checkDeadline chunk now _)
  unfold endTick
  dsimp only
  split
  · next t₁ exit _ heq =>
      rw [heq] at hcheck
      exact Or.inl ⟨hcheck, rfl⟩
  · next t₁ exit heq _ =>
      rw [heq] at hcheck
      exact Or.inr ⟨t₁, exit, hcheck, rfl⟩
  · next t₁ heq _ =>
      rw [heq] at hcheck
      exact Or.inl ⟨hcheck, rfl⟩

/-- Byte after byte is decoded, up to a frame or to the end of the tick. -/
theorem stretch_takeIn (now : Nat) (cue : Cue) (bytes : Bytes) (t : Turn ε) :
    Stretch chunk cue t (t.takeIn now cue bytes) := by
  induction bytes generalizing t with
  | nil => exact stretch_endTick now cue t
  | cons b rest ih =>
      have hdecode := moves_decode chunk b t
      unfold takeIn
      split
      · next t₁ heq =>
          rw [heq] at hdecode
          exact (ih t₁).after hdecode
      · next t₁ f heq =>
          rw [heq] at hdecode
          exact Or.inl ⟨hdecode, rfl⟩

/-- A tick begins by leaving, or by moves of its drain and its read. -/
theorem stretch_startTick (config : LinkConfig) (cue : Cue) (t : Turn ε) :
    Stretch config.writeChunk cue t (t.startTick config cue) := by
  unfold startTick
  split
  · exact Or.inr ⟨t, .evicted, .refl, rfl⟩
  · next hheld =>
      have hdrain := moves_drain config.writeChunk t (by simpa using hheld)
      split
      · next t₁ exit heq =>
          rw [heq] at hdrain
          exact Or.inr ⟨t₁, exit, hdrain, rfl⟩
      · next t₁ heq =>
          rw [heq] at hdrain
          have hread :=
            hdrain.trans (moves_read config.writeChunk config.readBuffer t₁)
          split
          · next t₂ exit heq₂ =>
              rw [heq₂] at hread
              exact Or.inr ⟨t₂, exit, hread, rfl⟩
          · next t₂ bytes heq₂ =>
              rw [heq₂] at hread
              exact (stretch_takeIn _ _ _ t₂).after hread

/-- After the verdict the rest is taken in, or the handler is greeted first. -/
theorem stretch_weigh (now : Nat) (f : Frame) (rest : Bytes) (cue : Cue)
    (t : Turn ε) :
    Stretch chunk cue t (t.weigh now f rest cue) := by
  have hjudge := moves_judge chunk f cue.verdict t
  unfold weigh
  dsimp only
  split
  · have hbeat := hjudge.trans (moves_beat chunk now _)
    split
    · exact (stretch_takeIn _ _ _ _).after hbeat
    · exact Or.inl ⟨hbeat, rfl⟩
  · exact (stretch_takeIn _ _ _ _).after hjudge

/-- **What a link does when it goes on.**  A link under way moves, and then it
waits again or ends. -/
theorem resume_cases (config : LinkConfig) (cue : Cue) {stand : Stand}
    (t : Turn ε) (hstand : stand.isUnderWay = true) :
    Stretch config.writeChunk cue t (t.resume config cue stand) := by
  cases stand with
  | connected => cases hstand
  | beginning => exact Or.inl ⟨.refl, rfl⟩
  | waiting => exact stretch_startTick config cue t
  | judging now f rest => exact stretch_weigh now f rest cue t
  | greeting now rest => exact stretch_takeIn now cue rest t
  | parting exit =>
      cases exit with
      | none => exact Or.inl ⟨.refl, rfl⟩
      | some exit => exact Or.inr ⟨t, exit, .refl, rfl⟩
  | ending => cases hstand
  | finished => cases hstand

/-- A link that has ended does nothing any more. -/
theorem resume_past (config : LinkConfig) (cue : Cue) {stand : Stand}
    (t : Turn ε) (hpast : stand.isPast = true) :
    t.resume config cue stand = (t, .finished) := by
  cases stand with
  | ending => rfl
  | finished => rfl
  | _ => cases hpast

/-- **What every stretch of work keeps**: a property of the link that signing
its channel, moving and ending keep. -/
theorem resume_keep {P : Turn ε → Prop} (config : LinkConfig) (cue : Cue)
    (stand : Stand) {t : Turn ε}
    (hmove : ∀ {a b : Turn ε}, Move config.writeChunk a b → P a → P b)
    (hleave : ∀ {a : Turn ε} (exit : Exit), P a → P (a.leave exit cue).1)
    (hsign : P t.sign) (start : P t) : P (t.resume config cue stand).1 := by
  rcases stand.cases with rfl | hunder | hpast
  · exact (moves_begin config.writeChunk t).keep hmove hsign
  · rcases resume_cases config cue t hunder with
        ⟨hmoves, _⟩ | ⟨t₁, exit, hmoves, hleft⟩
    · exact hmoves.keep hmove start
    · rw [hleft]
      exact hleave exit (hmoves.keep hmove start)
  · rw [resume_past config cue t hpast]
    exact start

/-- No link begins twice. -/
theorem resume_ne_connected (config : LinkConfig) (cue : Cue) (stand : Stand)
    (t : Turn ε) :
    (t.resume config cue stand).2 ≠ .connected := by
  intro hconnected
  rcases stand.cases with rfl | hunder | hpast
  · cases hconnected
  · rcases resume_cases config cue t hunder with
        ⟨_, hstand⟩ | ⟨t₁, exit, _, hleave⟩
    · rw [hconnected] at hstand
      cases hstand
    · rw [hleave] at hconnected
      cases hconnected
  · rw [resume_past config cue t hpast] at hconnected
    cases hconnected

/-! ## The end -/

section

omit [Endpoint ε]

@[simp] theorem link_release (t : Turn ε) :
    t.release.link = { t.link with state := .terminated } := by
  unfold release
  split
  · next hpast => rw [← hpast]
  · dsimp only
    split <;> rfl

@[simp] theorem endpoint_release (t : Turn ε) :
    t.release.endpoint = t.endpoint := by
  unfold release
  split
  · rfl
  · dsimp only
    split <;> rfl

/-- The end gives the channel back, unless it is somebody else's by now. -/
theorem pool_release {t : Turn ε} (live : t.link.state ≠ .terminated) :
    t.release.board.pool = (t.board.pool.releaseClaim t.link.claim).1 := by
  unfold release
  rw [if_neg live]
  dsimp only
  split <;> rfl

/-- Once it has ended, a link holds no channel. -/
theorem holds_release {t : Turn ε} (live : t.link.state ≠ .terminated) :
    t.release.board.pool.holds t.release.link.claim = false := by
  rw [pool_release live, link_release]
  exact t.board.pool.holds_releaseClaim t.link.claim

/-- The end of an active link takes it out of the count. -/
theorem release_of_active {t : Turn ε} (h : t.link.state = .active) :
    t.release.board.active = t.board.active.lower ∧
    t.release.events = t.events ++ [.lowered] := by
  unfold release
  rw [if_neg (by simp [h])]
  simp [h, note]

/-- The end of any other link leaves the count alone. -/
theorem release_of_not_active {t : Turn ε} (h : t.link.state ≠ .active) :
    t.release.board.active = t.board.active ∧ t.release.events = t.events := by
  unfold release
  split
  · exact ⟨rfl, rfl⟩
  · exact ⟨rfl, rfl⟩

/-- A link that has ended gives nothing back. -/
theorem release_of_past {t : Turn ε} (h : t.link.state = .terminated) :
    t.release = t := by
  unfold release
  rw [if_pos h]

@[simp] theorem link_leave (exit : Exit) (cue : Cue) (t : Turn ε) :
    (t.leave exit cue).1.link = t.release.link := rfl

@[simp] theorem board_leave (exit : Exit) (cue : Cue) (t : Turn ε) :
    (t.leave exit cue).1.board = t.release.board := rfl

@[simp] theorem endpoint_leave (exit : Exit) (cue : Cue) (t : Turn ε) :
    (t.leave exit cue).1.endpoint = t.endpoint := endpoint_release t

/-- What the link reports when it ends at `now`. -/
def report (exit : Exit) (now : Nat) (t : Turn ε) : Report :=
  let duration := now - t.link.startedAt
  { exit, stats := t.link.stats, rxRate := t.link.stats.rxRate duration,
    duration }

/-- What the record says of an end. -/
theorem events_leave (exit : Exit) (cue : Cue) (t : Turn ε) :
    (t.leave exit cue).1.events =
      t.release.events ++ .terminated (t.release.report exit cue.now) ::
        (cue.lastWords ++ [.ended]) := by
  simp only [leave, finish, note, List.append_assoc, List.singleton_append]
  rfl

/-- Nothing that is said at the end is about the count. -/
theorem isShift_lastWords (cue : Cue) {e : Event} (h : e ∈ cue.lastWords) :
    e.isShift = false := by
  obtain ⟨total, _, rfl⟩ := List.mem_map.mp h
  rfl

end

end Turn

end GroundLink
