import GroundLink.Link.Traffic
import Mathlib.Data.List.Forall2

/-!
# What a link does not look at

A link never looks at the record of its own events, nor at anything of its
endpoint but what reads and writes answer.  `Turn.carry` puts another endpoint
that answers the same in the place of the link's own, and a past before the
link's record; then the link does the same as before (`carry_resume`).  So do
any number of links in any order of acts (`Traffic.carry_run`).
-/

namespace GroundLink

variable {ε ε' : Type}

/-- `p` keeps all that an endpoint answers. -/
structure Endpoint.Keeps [Endpoint ε] [Endpoint ε'] (p : ε → ε') : Prop where
  read : ∀ e n,
    Endpoint.read (p e) n = (p (Endpoint.read e n).1, (Endpoint.read e n).2)
  write : ∀ e bytes,
    Endpoint.write (p e) bytes =
      (p (Endpoint.write e bytes).1, (Endpoint.write e bytes).2)

namespace Turn

variable (p : ε → ε') (past : List Event)

/-- The turn with another endpoint, and with a past before its record. -/
def carry (t : Turn ε) : Turn ε' :=
  ⟨t.link, t.board, p t.endpoint, past ++ t.events⟩

/-- A stretch of work, carried in the same way. -/
def carryStretch (result : Turn ε × Stand) : Turn ε' × Stand :=
  (result.1.carry p past, result.2)

variable (t : Turn ε)

/-- A link signs and activates its channel without a look at its endpoint. -/
theorem carry_begin : t.begin.carry p past = (t.carry p past).begin := by
  unfold begin
  cases hwait : t.link.policy.waitForHeartbeat <;>
    simp [hwait, carry, note, setChannelActive]

/-- What is given back, and the event that it adds, depend on the state alone.
-/
theorem carry_release : t.release.carry p past = (t.carry p past).release := by
  unfold release
  by_cases hpast : t.link.state = .terminated
  · simp [hpast, carry]
  · by_cases hactive : t.link.state = .active <;>
      simp [hactive, hpast, carry, note]

/-- The report of a link that leaves tells its counters and its age, and its
record grows at the end only. -/
theorem carry_leave (exit : Exit) (cue : Cue) :
    carryStretch p past (t.leave exit cue) =
      (t.carry p past).leave exit cue := by
  unfold leave finish carryStretch
  rw [← carry_release p past t]
  simp only [carry, note, List.append_assoc]

/-- The next chunk comes from the channel, not from the endpoint. -/
theorem carry_refill (chunk : Nat) :
    (t.refill chunk).carry p past = (t.carry p past).refill chunk := by
  unfold refill
  cases hempty : t.link.pending.isEmpty <;> simp [hempty, carry]

/-- What a failed write leads to is for the policy to say. -/
theorem carry_writeFailed :
    (t.writeFailed.1.carry p past, t.writeFailed.2) =
      (t.carry p past).writeFailed := by
  unfold writeFailed
  cases hexit : t.link.policy.exitOnError <;> simp [hexit, carry, count]

/-- A heartbeat is for the tracker, the count of active links and the channel's
flag. -/
theorem carry_beat (now : Nat) :
    (t.beat now).carry p past = (t.carry p past).beat now := by
  unfold beat
  cases hactive : t.link.tracker.active <;>
    cases hwait : t.link.policy.waitForHeartbeat <;>
    simp [hactive, hwait, carry, count, Tracker.heartbeat, activate, note,
      setChannelActive]

/-- Whether the deadline has passed is for the tracker and the time to say. -/
theorem carry_checkDeadline (now : Nat) :
    ((t.checkDeadline now).1.carry p past, (t.checkDeadline now).2) =
      (t.carry p past).checkDeadline now := by
  unfold checkDeadline
  cases hpoll : (t.link.tracker.poll now).2 <;>
    cases hwait : t.link.policy.waitForHeartbeat <;>
    cases hexit : t.link.policy.exitOnIdle <;>
    simp [hpoll, hwait, hexit, carry, deactivate, note, setChannelActive]

/-- A verdict goes on record and, if it is a refusal, into the counters. -/
theorem carry_judge (f : Frame) (verdict : Except Refusal Unit) :
    (t.judge f verdict).carry p past = (t.carry p past).judge f verdict := by
  cases verdict <;> simp [judge, carry, note, count]

/-- A tick ends by the tracker, whatever the endpoint has left to read. -/
theorem carry_endTick (now : Nat) (cue : Cue) :
    carryStretch p past (t.endTick now cue) =
      (t.carry p past).endTick now cue := by
  have hcheck := carry_checkDeadline p past
    (t.count fun s =>
      { s with parseErrors := t.link.decoder.stats.parseErrors }) now
  unfold endTick
  dsimp only
  rcases heq :
    (t.count fun s =>
      { s with parseErrors := t.link.decoder.stats.parseErrors }).checkDeadline
        now with ⟨t₁, exit⟩
  rw [heq] at hcheck
  have hcarry :
      ((t.carry p past).count fun s =>
        { s with
          parseErrors := (t.carry p past).link.decoder.stats.parseErrors
        }).checkDeadline now = (t₁.carry p past, exit) := hcheck.symm
  have hpoll : ((t.carry p past).link.tracker.poll now).2 =
      (t.link.tracker.poll now).2 := rfl
  rw [hcarry]
  cases htransition : (t.link.tracker.poll now).2 <;> cases exit <;>
    simp [count, hpoll, htransition, carryStretch, ← carry_leave]

/-- Bytes that have been read are the decoder's, and no longer the endpoint's.
-/
theorem carry_takeIn (now : Nat) (cue : Cue) (bytes : Bytes) :
    carryStretch p past (t.takeIn now cue bytes) =
      (t.carry p past).takeIn now cue bytes := by
  induction bytes generalizing t with
  | nil => exact carry_endTick p past t now cue
  | cons b rest ih =>
      have hdecode : (t.carry p past).decode b =
          ((t.decode b).1.carry p past, (t.decode b).2) := rfl
      unfold takeIn
      rw [hdecode]
      rcases t.decode b with ⟨t₁, _ | f⟩
      · exact ih t₁
      · rfl

/-- A frame is weighed by its verdict and its kind, and the bytes behind it are
taken in as before. -/
theorem carry_weigh (now : Nat) (f : Frame) (rest : Bytes) (cue : Cue) :
    carryStretch p past (t.weigh now f rest cue) =
      (t.carry p past).weigh now f rest cue := by
  unfold weigh
  dsimp only
  rw [← carry_judge, ← carry_beat]
  have hlink : ((t.judge f cue.verdict).carry p past).link =
      (t.judge f cue.verdict).link := rfl
  rw [hlink]
  split
  · split
    · exact carry_takeIn p past _ now cue rest
    · rfl
  · exact carry_takeIn p past _ now cue rest

variable [Endpoint ε] [Endpoint ε'] {p : ε → ε'} (hp : Endpoint.Keeps p)

include hp

/-- Each attempt of a drain gets the same answer on both sides, and so both
leave the same chunk and the same endpoint. -/
theorem carry_drainWithin (chunk attempts : Nat) :
    ((t.drainWithin chunk attempts).1.carry p past,
      (t.drainWithin chunk attempts).2) =
      (t.carry p past).drainWithin chunk attempts := by
  induction attempts generalizing t with
  | zero => rfl
  | succ attempts ih =>
      unfold drainWithin
      dsimp only
      rw [← carry_refill]
      have hlink : ((t.refill chunk).carry p past).link =
          (t.refill chunk).link := rfl
      have hport : ((t.refill chunk).carry p past).endpoint =
          p (t.refill chunk).endpoint := rfl
      rw [hlink, hport, hp.write]
      cases hempty : (t.refill chunk).link.pending.isEmpty with
      | true => rfl
      | false =>
          rcases Endpoint.write (t.refill chunk).endpoint
              (t.refill chunk).link.pending with
            ⟨endpoint, fault | _ | n⟩
          · exact carry_writeFailed p past _
          · rfl
          · exact ih _

/-- A read takes the same bytes on both sides and leaves corresponding
endpoints. -/
theorem carry_read (size : Nat) :
    ((t.read size).1.carry p past, (t.read size).2) =
      (t.carry p past).read size := by
  have hport : (t.carry p past).endpoint = p t.endpoint := rfl
  unfold Turn.read
  rw [hport, hp.read]
  rcases Endpoint.read t.endpoint size with ⟨endpoint, fault | bytes⟩
  · cases hclosed : fault.isClosed <;> simp [hclosed, carry, count]
  · rfl

/-- The first stretch of a tick asks the endpoint only through the drain and the
read. -/
theorem carry_startTick (config : LinkConfig) (cue : Cue) :
    carryStretch p past (t.startTick config cue) =
      (t.carry p past).startTick config cue := by
  have hdrain := carry_drainWithin past t hp config.writeChunk (t.unwritten + 1)
  unfold startTick
  have hheld : (t.carry p past).board.pool.holds (t.carry p past).link.claim =
      t.board.pool.holds t.link.claim := rfl
  rw [hheld]
  cases t.board.pool.holds t.link.claim with
  | false => exact carry_leave p past t .evicted cue
  | true =>
      have hcarry : (t.carry p past).drain config.writeChunk =
        ((t.drain config.writeChunk).1.carry p past,
          (t.drain config.writeChunk).2) := hdrain.symm
      rw [hcarry]
      rcases t.drain config.writeChunk with ⟨t₁, _ | exit⟩
      · have hread := carry_read past t₁ hp config.readBuffer
        simp only [Bool.not_true, Bool.false_eq_true, if_false]
        rw [← hread]
        rcases t₁.read config.readBuffer with ⟨t₂, exit | bytes⟩
        · exact carry_leave p past t₂ exit cue
        · exact carry_takeIn p past t₂ cue.now cue bytes
      · exact carry_leave p past t₁ exit cue

/-- **A link does the same** with another past and another endpoint that answers
the same. -/
theorem carry_resume (config : LinkConfig) (cue : Cue) (stand : Stand) :
    carryStretch p past (t.resume config cue stand) =
      (t.carry p past).resume config cue stand := by
  cases stand with
  | connected => exact congrArg (·, Stand.beginning) (carry_begin p past t)
  | waiting => exact carry_startTick past t hp config cue
  | judging now f rest => exact carry_weigh p past t now f rest cue
  | greeting now rest => exact carry_takeIn p past t now cue rest
  | parting exit =>
      cases exit with
      | none => rfl
      | some exit => exact carry_leave p past t exit cue
  | _ => rfl

end Turn

/-- The same act over another kind of endpoint.  The far end does what comes to
the same. -/
inductive Act.Carries (p : ε → ε') : Act ε → Act ε' → Prop
  | connect (name : String) (policy : Policy) (config : LinkConfig) (now : Nat)
      (endpoint : ε) :
      Carries p (.connect name policy config now endpoint)
        (.connect name policy config now (p endpoint))
  | resume (k : Nat) (cue : Cue) : Carries p (.resume k cue) (.resume k cue)
  | drop (k : Nat) : Carries p (.drop k) (.drop k)
  | far (k : Nat) {f : ε → ε} {f' : ε' → ε'} (same : ∀ e, p (f e) = f' (p e)) :
      Carries p (.far k f) (.far k f')
  | ask (op : Downlink.Op) : Carries p (.ask op) (.ask op)

/-- The link with another endpoint. -/
def Course.carry (p : ε → ε') (c : Course ε) : Course ε' :=
  ⟨c.link, c.config, p c.endpoint, c.events, c.stand⟩

namespace Traffic

variable (p : ε → ε') {w : Traffic ε}

/-- The traffic with other endpoints. -/
def carry (w : Traffic ε) : Traffic ε' :=
  ⟨w.downlink, w.active, w.courses.map (Course.carry p)⟩

theorem carry_course (w : Traffic ε) (k : Nat) :
    (w.carry p).courses[k]? = w.courses[k]?.map (Course.carry p) :=
  List.getElem?_map ..

/-- Storing the result of a turn and carrying it over may be done in either
order. -/
theorem carry_commit (k : Nat) (c : Course ε) (t : Turn ε) (stand : Stand) :
    (w.commit k c t stand).carry p =
      (w.carry p).commit k (c.carry p) (t.carry p []) stand := by
  unfold commit carry
  simp only [List.map_set]
  rfl

variable [Endpoint ε] [Endpoint ε'] {p : ε → ε'} (hp : Endpoint.Keeps p)
  (htransport : ∀ e, Endpoint.transport (p e) = Endpoint.transport e)

include hp htransport

/-- **The same happens** over endpoints that answer the same. -/
theorem carry_act {a : Act ε} {a' : Act ε'} (h : a.Carries p a') :
    (w.act a).carry p = (w.carry p).act a' := by
  cases h with
  | connect name policy config now endpoint =>
      have hpool : (w.carry p).downlink.pool.claim = w.downlink.pool.claim :=
        rfl
      simp only [act, connect]
      rw [hpool]
      rcases w.downlink.pool.claim with ⟨pool, _ | claim⟩
      · rfl
      · simp only [carry, List.map_append, htransport]
        rfl
  | resume k cue =>
      simp only [act, carry_course]
      cases w.courses[k]? with
      | none => rfl
      | some c =>
          have hresume :=
            Turn.carry_resume [] (c.turn w.board) hp c.config cue c.stand
          have hturn : (c.carry p).turn (w.carry p).board =
              (c.turn w.board).carry p [] := rfl
          simp only [Option.map_some, hturn]
          rw [carry_commit, show (c.carry p).stand = c.stand from rfl,
            show (c.carry p).config = c.config from rfl, ← hresume]
          rfl
  | drop k =>
      simp only [act, carry_course]
      cases w.courses[k]? with
      | none => rfl
      | some c =>
          have hturn : (c.carry p).turn (w.carry p).board =
              (c.turn w.board).carry p [] := rfl
          simp only [Option.map_some, hturn]
          rw [carry_commit, Turn.carry_release]
  | far k same =>
      simp only [act, carry_course]
      cases w.courses[k]? with
      | none => rfl
      | some c =>
          simp only [Option.map_some, carry, List.map_set, Course.carry, same]
  | ask op => rfl

/-- Acts that correspond one by one take corresponding traffics to corresponding
traffics. -/
theorem carry_run {acts : List (Act ε)} {acts' : List (Act ε')}
    (h : List.Forall₂ (Act.Carries p) acts acts') :
    (w.run acts).carry p = (w.carry p).run acts' := by
  induction h generalizing w with
  | nil => rfl
  | cons hact _ ih =>
      rw [run_cons, run_cons, ih, carry_act hp htransport hact]

end Traffic

end GroundLink
