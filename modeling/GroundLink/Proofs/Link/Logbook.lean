import GroundLink.Link.Logbook
import GroundLink.Proofs.Link.Hearing

/-!
# Why links end

A link ends in the first tick that gives it a reason to, with that reason, and
goes on after every other.  Three of the reasons come up before anything is
decoded, in the stretch of work with which a tick begins (`Going.startTick`).
The fourth can only come up when all has been decided on (`Going.endTick`), and
the deadline that it looks at is the one that the logbook has kept
(`Going.weighed`).  In between nothing can end the link but being dropped.

`Logs` puts that together for a link where it waits, `Logs.resume` carries it
from wait to wait, and `Logs.fate` is what it comes to.
-/

namespace GroundLink

variable {ε : Type}

/-! ## Calls -/

section

variable [Endpoint ε]

/-- A log answers what the endpoint answers. -/
theorem Logged.keeps_port : Endpoint.Keeps (Logged.port (ε := ε)) :=
  ⟨fun _ _ => rfl, fun _ _ => rfl⟩

/-- A log changes nothing of what a link does. -/
theorem Turn.resume_logged (config : LinkConfig) (cue : Cue) (stand : Stand)
    (t : Turn ε) :
    t.resume config cue stand =
      carryStretch Logged.port [] (t.logged.resume config cue stand) :=
  (carry_resume [] t.logged Logged.keeps_port config cue stand).symm

namespace Turn

/-- **Writing** calls the endpoint for writes only, and ends the link if one of
them failed and the policy says so. -/
theorem calls_drainWithin (chunk attempts : Nat) (t : Turn (Logged ε)) :
    ∃ writes, (t.drainWithin chunk attempts).1.endpoint.calls =
      t.endpoint.calls ++ writes ∧
      (∀ call ∈ writes, call.isWrite = true) ∧
      (t.drainWithin chunk attempts).2 =
        if t.link.policy.exitOnError && writes.any Call.isFailedWrite
          then some .writeError
        else none := by
  induction attempts generalizing t with
  | zero => exact ⟨[], (List.append_nil _).symm, nofun, by simp [drainWithin]⟩
  | succ attempts ih =>
      have hrefill : SameSide t (t.refill chunk) := sameSide_refill chunk t
      have hport : (t.refill chunk).endpoint = t.endpoint := by
        unfold refill
        split <;> rfl
      unfold drainWithin
      dsimp only
      split
      · exact ⟨[], by rw [hport, List.append_nil], nofun, by simp⟩
      · rcases hanswer : Endpoint.write (t.refill chunk).endpoint
            (t.refill chunk).link.pending with
          ⟨endpoint, answer⟩
        have hcalls : endpoint.calls = t.endpoint.calls ++ [.write answer] := by
          obtain ⟨rfl, rfl⟩ := Prod.mk.inj hanswer
          exact congrArg (fun e : Logged ε => e.calls ++ _) hport
        rcases answer with fault | n
        · refine ⟨[.write (.error fault)], ?_, by simp [Call.isWrite], ?_⟩
          · unfold writeFailed
            dsimp only
            split <;> exact hcalls
          · rw [← hrefill.policy]
            unfold writeFailed
            dsimp only [count]
            split
            · next hexit => simp [hexit, Call.isFailedWrite]
            · next hexit => simp [hexit]
        · cases n with
          | zero =>
              exact ⟨[.write (.ok 0)], hcalls, by simp [Call.isWrite], by
                simp [Call.isFailedWrite]⟩
          | succ n =>
              obtain ⟨writes, hwrites, hall, hexit⟩ :=
                ih (wrote (n + 1) { t.refill chunk with endpoint })
              refine ⟨.write (.ok (n + 1)) :: writes, hwrites.trans ?_, ?_,
                hexit.trans ?_⟩
              · rw [List.append_cons, ← hcalls]
                rfl
              · exact List.forall_mem_cons.mpr ⟨rfl, hall⟩
              · rw [← hrefill.policy]
                rfl

/-- **A read** is one call.  It ends the link if it says that the other side is
gone. -/
theorem calls_read (size : Nat) (t : Turn (Logged ε)) :
    ∃ answer, (t.read size).1.endpoint.calls =
      t.endpoint.calls ++ [.read answer] ∧
      ((t.read size).2 = .error .closed ∧
        (Call.read answer).isClosedRead = true ∨
        (∃ bytes, (t.read size).2 = .ok bytes) ∧
        (Call.read answer).isClosedRead = false) := by
  refine ⟨(Endpoint.read t.endpoint size).2, ?_⟩
  rcases hread : Endpoint.read t.endpoint size with ⟨endpoint, answer⟩
  have hcalls : endpoint.calls = t.endpoint.calls ++ [.read answer] := by
    obtain ⟨rfl, rfl⟩ := Prod.mk.inj hread
    rfl
  unfold Turn.read
  rw [hread]
  rcases answer with fault | bytes
  · cases hclosed : fault.isClosed with
    | true =>
        exact ⟨by simpa [hclosed] using hcalls,
          Or.inl ⟨by simp [hclosed], hclosed⟩⟩
    | false =>
        exact ⟨by simpa [hclosed, count] using hcalls,
          Or.inr ⟨⟨[], by simp [hclosed]⟩, hclosed⟩⟩
  · exact ⟨hcalls, Or.inr ⟨⟨bytes, rfl⟩, rfl⟩⟩

end Turn

end

/-! ## Ticks -/

/-- No reason is on record, and the handler has not been told of an end. -/
def Unended (events : List Event) : Prop :=
  ∀ e ∈ events, e.exit? = none ∧ e.isEnded = false

/-- An end is on record in neither part. -/
theorem Unended.append {events news : List Event} (h : Unended events)
    (hnews : Unended news) :
    Unended (events ++ news) := by
  intro e he
  rcases List.mem_append.mp he with he | he
  · exact h e he
  · exact hnews e he

/-- Then there is no reason on record. -/
theorem Unended.exits {events : List Event} (h : Unended events) :
    events.filterMap Event.exit? = [] :=
  List.filterMap_eq_nil_iff.mpr fun e he => (h e he).1

/-- Nor has the handler been told of one. -/
theorem Unended.told {events : List Event} (h : Unended events) :
    events.countP Event.isEnded = 0 :=
  List.countP_eq_zero.mpr fun e he => by simp [(h e he).2]

variable {policy : Policy} {timeout deadline now : Nat} {dropped : Prop}
  {x : Tick} {past book : List Tick} {l l' : Link} {events : List Event}

/-- These ticks are over, and none of them gave a reason to end. -/
def Passed (policy : Policy) (book : List Tick) : Prop :=
  ∀ x ∈ book, x.Lawful policy ∧ x.complete = true ∧ x.exit? policy = none

/-- Ticks that have passed gave no reason to end. -/
theorem Passed.exits (h : Passed policy book) : exits policy book = [] :=
  List.filterMap_eq_nil_iff.mpr fun x hx => (h x hx).2.2

/-- One tick more has passed. -/
theorem Passed.cons (h : Passed policy past) (hlawful : x.Lawful policy)
    (hover : x.complete = true) (hexit : x.exit? policy = none) :
    Passed policy (x :: past) :=
  List.forall_mem_cons.mpr ⟨⟨hlawful, hover, hexit⟩, h⟩

/-- The tick began at `now`, and what was written and read in it gives no reason
to end. -/
structure Tick.Quiet (policy : Policy) (now : Nat) (x : Tick) : Prop where
  lawful : x.Lawful policy
  time : x.time = now
  held : x.held = true
  wrote : (policy.exitOnError && x.calls.any Call.isFailedWrite) = false
  read : x.calls.any Call.isClosedRead = false

/-- Then there is one reason left, when all has been decided on. -/
theorem Tick.Quiet.exit_eq (h : x.Quiet policy now) :
    x.exit? policy =
      if x.complete && policy.exitOnIdle && decide (x.deadline < x.time)
        then some .idle
      else none := by
  unfold Tick.exit?
  rw [h.held, h.wrote, h.read]
  rfl

/-- Whether a tick is over makes no difference to what was read and written
in it. -/
theorem Tick.Quiet.completeAs (h : x.Quiet policy now) (complete : Bool) :
    ({ x with complete } : Tick).Quiet policy now :=
  ⟨⟨h.lawful.away, h.lawful.here⟩, h.time, h.held, h.wrote, h.read⟩

theorem Tick.goOn_nil (complete : Bool) (x : Tick) :
    x.goOn [] complete = { x with complete } := by
  unfold goOn
  rw [List.append_nil]

/-! ## Links -/

/-- A link that has not ended, for which the next heartbeat is due at
`deadline`. -/
structure Going (policy : Policy) (timeout deadline : Nat) (l : Link)
    (events : List Event) :
    Prop where
  live : l.state ≠ .terminated
  policy : l.policy = policy
  span : l.tracker.timeout = timeout
  due : l.tracker.deadline = deadline
  unended : Unended events

/-- Only state, policy and tracker matter to a link that goes on. -/
theorem Going.of_same (h : Going policy timeout deadline l events)
    (hstate : l'.state = l.state) (hpolicy : l'.policy = l.policy)
    (htracker : l'.tracker = l.tracker) :
    Going policy timeout deadline l' events :=
  ⟨hstate ▸ h.live, hpolicy.trans h.policy, htracker ▸ h.span, htracker ▸ h.due,
    h.unended⟩

/-- Events that are no end leave the link on its way. -/
theorem Going.append {news : List Event}
    (h : Going policy timeout deadline l events) (hnews : Unended news) :
    Going policy timeout deadline l (events ++ news) :=
  { h with unended := h.unended.append hnews }

/-- The link is in a tick that began at `now` and is not over. -/
def InTick (policy : Policy) (timeout now : Nat) (book : List Tick) (l : Link)
    (events : List Event) : Prop :=
  ∃ x past, book = x :: past ∧ x.complete = false ∧ x.Quiet policy now ∧
    Passed policy past ∧
    Going policy timeout x.deadline l events

/-- **What the logbook says of a link where it waits.** -/
def Logs (policy : Policy) (timeout : Nat) (dropped : Prop) (book : List Tick)
    (l : Link) (events : List Event) : Stand → Prop
  | .connected | .beginning =>
      book = [] ∧ Going policy timeout (l.due timeout []) l events
  | .waiting =>
      Passed policy book ∧ Going policy timeout (l.due timeout book) l events
  | .judging now _ _ | .greeting now _ =>
      InTick policy timeout now book l events
  | .parting exit => ∃ now, InTick policy timeout now book l events ∧
      (∀ x ∈ book.head?, x.deadline < x.time) ∧
      exit = if policy.exitOnIdle then some .idle else none
  | .ending =>
      l.state = .terminated ∧ Concludes policy book events ∧
        exits policy book ≠ []
  | .finished => l.state = .terminated ∧ Concludes policy book events ∧
      (exits policy book ≠ [] ∨ dropped)

namespace Turn

variable {t : Turn ε}

/-- What becomes of a link in a stretch of work in which it calls its endpoint
no more. -/
def Proceeds (policy : Policy) (timeout : Nat) (dropped : Prop) (x : Tick)
    (past : List Tick) (t : Turn ε) (result : Turn ε × Stand) : Prop :=
  result.1.endpoint = t.endpoint ∧
    Logs policy timeout dropped
      ({ x with complete := result.2.isTickOver } :: past) result.1.link
      result.1.events result.2

/-! ## The end of a link -/

/-- To give back is to say at most that the link no longer counts as active. -/
theorem release_unended (t : Turn ε) :
    ∃ news, t.release.events = t.events ++ news ∧ Unended news := by
  by_cases hactive : t.link.state = .active
  · refine ⟨_, (release_of_active hactive).2, ?_⟩
    simp [Unended, Event.exit?, Event.isEnded]
  · refine ⟨[], ?_, nofun⟩
    rw [(release_of_not_active hactive).2, List.append_nil]

end Turn

open Turn

variable {t : Turn ε}

/-- **A link that ends by itself** has reported the reason that its latest tick
gave. -/
theorem Going.leave {exit : Exit}
    (h : Going policy timeout deadline t.link t.events)
    (hlawful : x.Lawful policy) (hexit : x.exit? policy = some exit)
    (hpast : Passed policy past) (cue : Cue) :
    Logs policy timeout dropped (x :: past) (t.leave exit cue).1.link
      (t.leave exit cue).1.events .ending := by
  obtain ⟨news, hrelease, hnews⟩ := t.release_unended
  have hbefore := h.unended.append hnews
  have hwords : Unended cue.lastWords := by
    intro e he
    obtain ⟨total, _, rfl⟩ := List.mem_map.mp he
    exact ⟨rfl, rfl⟩
  have hexits : exits policy (x :: past) = [exit] := by
    unfold exits
    rw [List.filterMap_cons_some hexit]
    exact congrArg (exit :: ·) hpast.exits
  refine ⟨by rw [link_leave, link_release], ⟨?_, ?_, ?_, ?_⟩, by simp [hexits]⟩
  · exact List.forall_mem_cons.mpr ⟨hlawful, fun y hy => (hpast y hy).1⟩
  · exact fun y hy => (hpast y hy).2
  · rw [events_leave, hrelease, hexits, List.filterMap_append, hbefore.exits]
    simp [Event.exit?, List.filterMap_append, hwords.exits, report]
  · rw [events_leave, hrelease, hexits, List.countP_append, hbefore.told]
    simp [Event.isEnded, List.countP_append, hwords.told]

/-! ## The end of a tick -/

/-- **All has been decided on.**  The deadline has passed and the policy says
so, or the link goes on; and if it was active and is no more, the handler is
told first. -/
theorem Going.endTick (h : Going policy timeout x.deadline t.link t.events)
    (hquiet : x.Quiet policy now) (hpast : Passed policy past) (cue : Cue) :
    Proceeds policy timeout dropped x past t (t.endTick now cue) := by
  have htime := hquiet.time
  by_cases hgone : (t.link.tracker.poll now).2 = .deactivated
  · obtain ⟨hstand, htracker, hstate, hpolicy, hendpoint, hevents⟩ :=
      endTick_of_deactivated hgone cue
    have hlate : x.deadline < now := by
      rw [← h.due]
      by_contra hin
      simp [Tracker.poll, Nat.not_lt.mp hin] at hgone
    refine ⟨hendpoint, ?_⟩
    rw [hstand, hevents]
    refine ⟨now, ⟨_, past, rfl, rfl, hquiet.completeAs false, hpast, ?_⟩, ?_, by
        rw [h.policy]⟩
    · refine Going.append ⟨?_, hpolicy.trans h.policy, ?_, ?_, h.unended⟩ ?_
      · rw [hstate]
        exact LinkState.noConfusion
      · rw [htracker, Tracker.timeout_poll, h.span]
      · rw [htracker, Tracker.deadline_poll, h.due]
      · simp [Unended, Event.exit?, Event.isEnded]
    · intro y hy
      obtain rfl : _ = y := Option.mem_some_iff.mp hy
      exact htime.symm ▸ hlate
  · have hcounted : Going policy timeout x.deadline
        (t.count fun s =>
          { s with parseErrors := t.link.decoder.stats.parseErrors }).link
        t.events := h.of_same rfl rfl rfl
    have hexit := (hquiet.completeAs true).exit_eq
    simp only [Bool.true_and] at hexit
    rw [endTick_of_not_deactivated hgone cue, h.policy, h.due]
    split
    · next hends =>
        have hidle : ({ x with complete := true } : Tick).exit? policy =
            some .idle := by
          rw [hexit, hends.1, htime]
          simp [hends.2]
        refine ⟨endpoint_leave .idle cue _, ?_⟩
        exact hcounted.leave (hquiet.completeAs true).lawful hidle hpast cue
    · next hstays =>
        have hnone : ({ x with complete := true } : Tick).exit? policy =
            none := by
          rw [hexit, htime, if_neg]
          simpa using hstays
        exact ⟨rfl, hpast.cons (hquiet.completeAs true).lawful rfl hnone,
          hcounted⟩

/-- **Decoding goes on** up to the next frame, or to the end of the tick. -/
theorem Going.takeIn (h : Going policy timeout x.deadline t.link t.events)
    (hquiet : x.Quiet policy now) (hpast : Passed policy past) (cue : Cue)
    (bytes : Bytes) :
    Proceeds policy timeout dropped x past t (t.takeIn now cue bytes) := by
  induction bytes generalizing t with
  | nil => exact h.endTick hquiet hpast cue
  | cons b rest ih =>
      have hdecoded : Going policy timeout x.deadline (t.decode b).1.link
          (t.decode b).1.events :=
        h.of_same rfl rfl rfl
      unfold Turn.takeIn
      rcases hdecode : t.decode b with ⟨t', _ | f⟩
      · obtain rfl : (t.decode b).1 = t' := congrArg Prod.fst hdecode
        exact ih hdecoded
      · obtain rfl : (t.decode b).1 = t' := congrArg Prod.fst hdecode
        exact ⟨rfl, _, past, rfl, rfl, hquiet.completeAs false, hpast, hdecoded⟩

/-! ## Frames -/

/-- A verdict ends no link, not even a refusal. -/
theorem Going.judge (h : Going policy timeout deadline t.link t.events)
    (f : Frame) (verdict : Except Refusal Unit) :
    Going policy timeout deadline (t.judge f verdict).link
      (t.judge f verdict).events := by
  obtain ⟨htracker, hstate, hevents, _⟩ := judge_same f verdict t
  have hpolicy : (t.judge f verdict).link.policy = t.link.policy := by
    cases verdict <;> rfl
  rw [hevents]
  refine (h.of_same hstate hpolicy htracker).append ?_
  simp [Unended, Event.exit?, Event.isEnded]

/-- A heartbeat moves the deadline, whether or not the link was active. -/
theorem Going.beat (h : Going policy timeout deadline t.link t.events)
    (now : Nat) :
    Going policy timeout (now + timeout) (t.beat now).link
      (t.beat now).events := by
  cases hactive : t.link.tracker.active with
  | true =>
      rw [beat_eq_prolong hactive]
      refine ⟨h.live, h.policy, h.span, ?_, h.unended⟩
      rw [Tracker.deadline_heartbeat, h.span]
  | false =>
      obtain ⟨htracker, hstate, hevents, _⟩ := beat_of_absent hactive now
      have hpolicy : (t.beat now).link.policy = t.link.policy := by
        rw [beat_eq_greet hactive]
        cases t.link.policy.waitForHeartbeat <;> rfl
      rw [hevents]
      refine Going.append ⟨?_, hpolicy.trans h.policy, ?_, ?_, h.unended⟩ ?_
      · rw [hstate]
        exact LinkState.noConfusion
      · rw [htracker, Tracker.timeout_heartbeat, h.span]
      · rw [htracker, Tracker.deadline_heartbeat, h.span]
      · simp [Unended, Event.exit?, Event.isEnded]

/-- **A frame has been decided on**, and the next heartbeat is due when the
logbook says. -/
theorem Going.weighed (h : Going policy timeout x.deadline t.link t.events)
    (htime : x.time = now) (f : Frame) (verdict : Except Refusal Unit) :
    Going policy timeout (x.hear timeout f).deadline
      (t.weighed now f verdict).link
      (t.weighed now f verdict).events := by
  have hjudged := h.judge f verdict
  unfold Turn.weighed Tick.hear
  cases hbeat : f.isHeartbeat with
  | false => exact hjudged
  | true =>
      have hbeaten := hjudged.beat now
      rw [← htime] at hbeaten ⊢
      exact hbeaten

/-- A heartbeat moves the deadline of the tick, and nothing else in it. -/
theorem Tick.Quiet.hear (h : x.Quiet policy now) (timeout : Nat) (f : Frame) :
    (x.hear timeout f).Quiet policy now := by
  unfold Tick.hear
  split
  · exact ⟨⟨h.lawful.away, h.lawful.here⟩, h.time, h.held, h.wrote, h.read⟩
  · exact h

/-- The handler has decided on a frame: decoding goes on, or the link says first
that it is active. -/
theorem Going.weigh (h : Going policy timeout x.deadline t.link t.events)
    (hquiet : x.Quiet policy now) (hpast : Passed policy past) (f : Frame)
    (rest : Bytes) (cue : Cue) :
    Proceeds policy timeout dropped (x.hear timeout f) past t
      (t.weigh now f rest cue) := by
  have hweighed := h.weighed hquiet.time f cue.verdict
  have hheard := hquiet.hear timeout f
  have hendpoint := weighed_endpoint now f cue.verdict t
  rcases weigh_cases now f rest cue t with heq | heq
  · have hgoes : Proceeds policy timeout dropped (x.hear timeout f) past
        (t.weighed now f cue.verdict)
          ((t.weighed now f cue.verdict).takeIn now cue rest) :=
      hweighed.takeIn hheard hpast cue rest
    rw [heq]
    exact ⟨hgoes.1.trans hendpoint, hgoes.2⟩
  · rw [heq]
    exact ⟨hendpoint, _, past, rfl, rfl, hheard.completeAs false, hpast,
      hweighed⟩

/-! ## The beginning of a tick -/

/-- What has been written says nothing of the other side. -/
theorem any_isClosedRead {writes : List Call}
    (hall : ∀ call ∈ writes, call.isWrite = true) :
    writes.any Call.isClosedRead = false := by
  rw [List.any_eq_false]
  intro call hcall
  have hwrite := hall call hcall
  cases call with
  | write answer => exact Bool.false_ne_true
  | read answer => cases hwrite

/-- A tick in which no write ended the link, and which has read then. -/
structure Tick.HasRead (policy : Policy) (answer : Except Fault Bytes)
    (x : Tick) : Prop where
  lawful : x.Lawful policy
  held : x.held = true
  wrote : (policy.exitOnError && x.calls.any Call.isFailedWrite) = false
  read : x.calls.any Call.isClosedRead = (Call.read answer).isClosedRead

/-- All calls of a tick but the last are writes, and the last one is the
read. -/
theorem Tick.hasRead {writes : List Call}
    (hall : ∀ call ∈ writes, call.isWrite = true)
    (hwrote : (policy.exitOnError && writes.any Call.isFailedWrite) = false)
    (answer : Except Fault Bytes) (now deadline : Nat) (complete : Bool) :
    Tick.HasRead policy answer
      ⟨now, true, deadline, writes ++ [.read answer], complete⟩ := by
  refine ⟨⟨nofun, fun _ => ⟨writes, hall, ?_⟩⟩, rfl, ?_, ?_⟩
  · rw [hwrote]
    exact ⟨answer, rfl⟩
  · rw [List.any_append]
    simpa [Call.isFailedWrite] using hwrote
  · rw [List.any_append, any_isClosedRead hall]
    simp

section

variable {t : Turn (Logged ε)}

/-- The logbook says what becomes of the link in the first stretch of a tick, if
the next heartbeat was due at `deadline` before. -/
def Begins (policy : Policy) (timeout deadline now : Nat) (dropped : Prop)
    (past : List Tick) (held : Bool) (result : Turn (Logged ε) × Stand) :
    Prop :=
  Logs policy timeout dropped
    (⟨now, held, deadline, result.1.endpoint.calls, result.2.isTickOver⟩ ::
      past)
    result.1.link result.1.events result.2

/-- To write and to read makes no difference to why the link could end. -/
theorem Going.of_sameSide (h : Going policy timeout deadline t.link t.events)
    {t' : Turn (Logged ε)} (hsame : SameSide t t') :
    Going policy timeout deadline t'.link t'.events := by
  rw [hsame.events]
  exact h.of_same hsame.state hsame.policy hsame.tracker

/-- A write that failed ends the link, if the policy says so, and nothing is
read. -/
theorem Going.cutShort (h : Going policy timeout deadline t.link t.events)
    {writes : List Call} (hcalls : t.endpoint.calls = writes)
    (hall : ∀ call ∈ writes, call.isWrite = true)
    (hfailed : (policy.exitOnError && writes.any Call.isFailedWrite) = true)
    (hpast : Passed policy past) (cue : Cue) :
    Begins policy timeout deadline cue.now dropped past true
      (t.leave .writeError cue) := by
  have hlawful :
      Tick.Lawful policy ⟨cue.now, true, deadline, writes, true⟩ := by
    refine ⟨nofun, fun _ => ⟨writes, hall, ?_⟩⟩
    rw [hfailed]
    rfl
  have hreason : Tick.exit? policy ⟨cue.now, true, deadline, writes, true⟩ =
      some .writeError := by
    unfold Tick.exit?
    rw [hfailed]
    rfl
  rw [← hcalls, ← endpoint_leave .writeError cue t] at hlawful hreason
  exact h.leave hlawful hreason hpast cue

variable [Endpoint ε]

/-- What has been read is decoded, if the read does not end the link. -/
theorem Going.read (h : Going policy timeout deadline t.link t.events)
    {writes : List Call} (hcalls : t.endpoint.calls = writes)
    (hall : ∀ call ∈ writes, call.isWrite = true)
    (hwrote : (policy.exitOnError && writes.any Call.isFailedWrite) = false)
    (hpast : Passed policy past) (size : Nat) (cue : Cue) :
    (∃ exit, (t.read size).2 = .error exit ∧
        Begins policy timeout deadline cue.now dropped past true
          ((t.read size).1.leave exit cue)) ∨
      ∃ bytes, (t.read size).2 = .ok bytes ∧
        Begins policy timeout deadline cue.now dropped past true
          ((t.read size).1.takeIn cue.now cue bytes) := by
  obtain ⟨answer, hread, hanswer⟩ := calls_read size t
  have hgoing : Going policy timeout deadline (t.read size).1.link
      (t.read size).1.events :=
    h.of_sameSide (sameSide_read size t)
  rw [hcalls] at hread
  generalize t.read size = result at hread hanswer hgoing ⊢
  obtain ⟨t', outcome⟩ := result
  dsimp only at hread hanswer hgoing
  rcases hanswer with ⟨rfl, hclosed⟩ | ⟨⟨bytes, rfl⟩, hclosed⟩
  · have htick := Tick.hasRead hall hwrote answer cue.now deadline true
    rw [← hread, ← endpoint_leave .closed cue t'] at htick
    refine Or.inl ⟨.closed, rfl, hgoing.leave htick.lawful ?_ hpast cue⟩
    unfold Tick.exit?
    rw [htick.held, htick.wrote, htick.read, hclosed]
    rfl
  · have htick := Tick.hasRead hall hwrote answer cue.now deadline false
    rw [← hread] at htick
    have hquiet : Tick.Quiet policy cue.now
        ⟨cue.now, true, deadline, t'.endpoint.calls, false⟩ :=
      ⟨htick.lawful, rfl, rfl, htick.wrote, htick.read.trans hclosed⟩
    have hgoes : Proceeds policy timeout dropped _ past t'
        (t'.takeIn cue.now cue bytes) :=
      hgoing.takeIn hquiet hpast cue bytes
    refine Or.inr ⟨bytes, rfl, ?_⟩
    unfold Begins
    rw [hgoes.1]
    exact hgoes.2

/-- **A tick begins.**  It ends the link without a call of the endpoint if the
channel is not the link's any more; else by a write that failed, if the policy
says so; else by a read that finds the other side gone.  If none of them does,
what was read is decoded. -/
theorem Going.startTick (h : Going policy timeout deadline t.link t.events)
    (hcalls : t.endpoint.calls = []) (hpast : Passed policy past)
    (config : LinkConfig) (cue : Cue) :
    Begins policy timeout deadline cue.now dropped past
      (t.board.pool.holds t.link.claim)
      (t.startTick config cue) := by
  unfold Turn.startTick
  cases hheld : t.board.pool.holds t.link.claim with
  | false =>
      have hnone : (t.leave .evicted cue).1.endpoint.calls = [] := by
        rw [endpoint_leave, hcalls]
      have hlawful : Tick.Lawful policy ⟨cue.now, false, deadline, [], true⟩ :=
        ⟨fun _ => rfl, nofun⟩
      rw [← hnone] at hlawful
      exact h.leave hlawful rfl hpast cue
  | true =>
      obtain ⟨writes, hwrites, hall, hexit⟩ :=
        calls_drainWithin config.writeChunk (t.unwritten + 1) t
      have hwrote : (t.drain config.writeChunk).1.endpoint.calls = writes := by
        rw [hcalls] at hwrites
        exact hwrites
      have hgoing :
          Going policy timeout deadline (t.drain config.writeChunk).1.link
          (t.drain config.writeChunk).1.events :=
        h.of_sameSide (sameSide_drainWithin _ _ t)
      rw [h.policy, ← Turn.drain] at hexit
      simp only [Bool.not_true, Bool.false_eq_true, if_false]
      generalize t.drain config.writeChunk = result at hwrote hexit hgoing ⊢
      obtain ⟨t', exit⟩ := result
      dsimp only at hwrote hexit hgoing
      cases hfailed : policy.exitOnError && writes.any Call.isFailedWrite with
      | false =>
          obtain rfl : exit = none := by
            rw [hexit, hfailed]
            rfl
          dsimp only
          rcases hgoing.read hwrote hall hfailed hpast config.readBuffer
              cue with
            ⟨exit, hread, hleft⟩ | ⟨bytes, hread, htaken⟩
          · rw [← Prod.eta (t'.read config.readBuffer), hread]
            exact hleft
          · rw [← Prod.eta (t'.read config.readBuffer), hread]
            exact htaken
      | true =>
          obtain rfl : exit = some .writeError := by
            rw [hexit, hfailed]
            rfl
          exact hgoing.cutShort hwrote hall hfailed hpast cue

/-! ## Stretches of work -/

/-- The handler has been told that the link is idle: the tick is over. -/
theorem InTick.parting (h : InTick policy timeout now book l events)
    (hlate : ∀ x ∈ book.head?, x.deadline < x.time) :
    ∃ x past, book = x :: past ∧ Passed policy past ∧
      Going policy timeout x.deadline l events ∧
      ({ x with complete := true } : Tick).Lawful policy ∧
      ({ x with complete := true } : Tick).exit? policy =
        if policy.exitOnIdle then some .idle else none := by
  obtain ⟨x, past, rfl, _, hquiet, hpast, hgoing⟩ := h
  refine ⟨x, past, rfl, hpast, hgoing, (hquiet.completeAs true).lawful, ?_⟩
  rw [(hquiet.completeAs true).exit_eq]
  simp [hlate x rfl]

/-- A link that calls its endpoint no more has nothing else in its logbook. -/
theorem Turn.Proceeds.logged {config : LinkConfig} {cue : Cue} {stand : Stand}
    {t : Turn ε}
    (h : Proceeds policy timeout dropped x past t.logged
      (t.logged.resume config cue stand)) :
    Logs policy timeout dropped
      (x.goOn (t.calls config cue stand)
        (t.resume config cue stand).2.isTickOver :: past)
      (t.resume config cue stand).1.link (t.resume config cue stand).1.events
      (t.resume config cue stand).2 := by
  obtain ⟨hendpoint, hlogs⟩ := h
  have hcalls : t.calls config cue stand = [] := congrArg Logged.calls hendpoint
  rw [hcalls, Tick.goOn_nil, resume_logged]
  exact hlogs

/-- **A stretch of work** is in the logbook. -/
theorem Logs.resume {t : Turn ε} {config : LinkConfig} {stand : Stand}
    (h : Logs policy config.heartbeatTimeout dropped book t.link t.events stand)
    (cue : Cue) :
    Logs policy config.heartbeatTimeout dropped (t.log config cue stand book)
      (t.resume config cue stand).1.link (t.resume config cue stand).1.events
      (t.resume config cue stand).2 := by
  cases stand with
  | connected =>
      obtain ⟨rfl, hgoing⟩ := h
      obtain ⟨hlink, _, hevents⟩ := t.begin_same
      have hbegun : Going policy config.heartbeatTimeout
          (t.link.due config.heartbeatTimeout [])
          t.begin.link t.begin.events := by
        rw [hlink, hevents]
        refine hgoing.append ?_
        simp [Unended, Event.exit?, Event.isEnded]
      exact ⟨rfl, hlink ▸ hbegun⟩
  | beginning =>
      obtain ⟨rfl, hgoing⟩ := h
      exact ⟨nofun, hgoing⟩
  | waiting =>
      obtain ⟨hpast, hgoing⟩ := h
      have hbegins : Begins policy config.heartbeatTimeout
          (t.link.due config.heartbeatTimeout book) cue.now dropped book
          (t.board.pool.holds t.link.claim)
            (t.logged.resume config cue .waiting) :=
        Going.startTick (t := t.logged) hgoing rfl hpast config cue
      rw [Turn.log, resume_logged]
      exact hbegins
  | judging now f rest =>
      obtain ⟨x, past, rfl, _, hquiet, hpast, hgoing⟩ := h
      exact Proceeds.logged
        (Going.weigh (t := t.logged) hgoing hquiet hpast f rest cue)
  | greeting now rest =>
      obtain ⟨x, past, rfl, _, hquiet, hpast, hgoing⟩ := h
      exact Proceeds.logged
        (Going.takeIn (t := t.logged) hgoing hquiet hpast cue rest)
  | parting exit =>
      obtain ⟨now, htick, hlate, hexit⟩ := h
      obtain ⟨x, past, rfl, hpast, hgoing, hlawful, hreason⟩ :=
        htick.parting hlate
      rw [← hexit] at hreason
      cases exit with
      | none =>
          have hover :
              Proceeds policy config.heartbeatTimeout dropped x past t.logged
              (t.logged.resume config cue (.parting none)) :=
            ⟨rfl, hpast.cons hlawful rfl hreason, hgoing⟩
          exact hover.logged
      | some exit =>
          have hover :
              Proceeds policy config.heartbeatTimeout dropped x past t.logged
              (t.logged.resume config cue (.parting (some exit))) :=
            ⟨endpoint_leave exit cue _,
              Going.leave (t := t.logged) hgoing hlawful hreason hpast cue⟩
          exact hover.logged
  | ending => exact ⟨h.1, h.2.1, Or.inl h.2.2⟩
  | finished => exact h

end

/-! ## What the logbook says -/

/-- A link has ended if its logbook gives a reason, or if it was dropped, and
not otherwise; and what is on record of that is what should be. -/
def Fate (policy : Policy) (dropped : Prop) (book : List Tick) (l : Link)
    (events : List Event) :
    Prop :=
  Concludes policy book events ∧
    (l.state ≠ .terminated ∧ exits policy book = [] ∨
      l.state = .terminated ∧ (exits policy book ≠ [] ∨ dropped))

/-- What comes after the end on record, and is no end itself, changes
nothing. -/
theorem Concludes.append {news : List Event} (h : Concludes policy book events)
    (hnews : Unended news) : Concludes policy book (events ++ news) := by
  refine ⟨h.lawful, h.first, ?_, ?_⟩
  · rw [List.filterMap_append, h.reported, hnews.exits, List.append_nil]
  · rw [List.countP_append, h.told, hnews.told, Nat.add_zero]

/-- Nothing is on record of an end where there was no reason for one. -/
theorem Going.fate (h : Going policy timeout deadline l events)
    (hlawful : ∀ x ∈ book, x.Lawful policy)
    (hfirst : ∀ x ∈ book.tail, x.complete = true ∧ x.exit? policy = none)
    (hexits : exits policy book = []) : Fate policy dropped book l events := by
  refine ⟨⟨hlawful, hfirst, ?_, ?_⟩, Or.inl ⟨h.live, hexits⟩⟩
  · rw [hexits, h.unended.exits]
  · rw [h.unended.told, if_pos hexits]

/-- Between two ticks a link has had no reason to end, and has not. -/
theorem Passed.fate (hpast : Passed policy book)
    (h : Going policy timeout deadline l events) :
    Fate policy dropped book l events :=
  h.fate (fun x hx => (hpast x hx).1)
    (fun x hx => (hpast x (List.mem_of_mem_tail hx)).2)
    hpast.exits

/-- Nor has it in the middle of a tick. -/
theorem InTick.fate (h : InTick policy timeout now book l events) :
    Fate policy dropped book l events := by
  obtain ⟨x, past, rfl, hopen, hquiet, hpast, hgoing⟩ := h
  have hnone : x.exit? policy = none := by
    rw [hquiet.exit_eq, hopen]
    rfl
  refine hgoing.fate ?_ (fun y hy => (hpast y hy).2) ?_
  · exact List.forall_mem_cons.mpr ⟨hquiet.lawful, fun y hy => (hpast y hy).1⟩
  · unfold exits
    rw [List.filterMap_cons_none hnone]
    exact hpast.exits

variable {stand : Stand}

/-- **What becomes of a link** is in its logbook. -/
theorem Logs.fate (h : Logs policy timeout dropped book l events stand) :
    Fate policy dropped book l events := by
  cases stand with
  | connected =>
      obtain ⟨rfl, h⟩ := h
      exact Passed.fate nofun h
  | beginning =>
      obtain ⟨rfl, h⟩ := h
      exact Passed.fate nofun h
  | waiting => exact h.1.fate h.2
  | judging now f rest => exact InTick.fate h
  | greeting now rest => exact InTick.fate h
  | parting exit =>
      obtain ⟨now, h, _⟩ := h
      exact h.fate
  | ending => exact ⟨h.2.1, Or.inr ⟨h.1, Or.inl h.2.2⟩⟩
  | finished => exact ⟨h.2.1, Or.inr ⟨h.1, h.2.2⟩⟩

/-- Where a link waits that has not ended: after a tick that is over it waits
for the next one, and in a tick that is not over it will go on. -/
theorem Logs.going_on (h : Logs policy timeout dropped book l events stand)
    (hlive : l.state ≠ .terminated) :
    ∀ x ∈ book.head?,
      if x.complete then stand = .waiting else stand.ahead ≠ 0 := by
  have hwithin {now : Nat} (h : InTick policy timeout now book l events)
      (hahead : stand.ahead ≠ 0) :
      ∀ x ∈ book.head?,
        if x.complete then stand = .waiting else stand.ahead ≠ 0 := by
    obtain ⟨x, past, rfl, hopen, _⟩ := h
    intro y hy
    obtain rfl : x = y := Option.mem_some_iff.mp hy
    rw [hopen]
    exact hahead
  cases stand with
  | connected =>
      obtain ⟨rfl, _⟩ := h
      nofun
  | beginning =>
      obtain ⟨rfl, _⟩ := h
      nofun
  | waiting =>
      intro x hx
      rw [(h.1 x (List.mem_of_mem_head? hx)).2.1]
      rfl
  | judging now f rest => exact hwithin h (Nat.succ_ne_zero _)
  | greeting now rest => exact hwithin h (Nat.succ_ne_zero _)
  | parting exit =>
      obtain ⟨now, h, _⟩ := h
      exact hwithin h (Nat.succ_ne_zero _)
  | ending => exact absurd h.1 hlive
  | finished => exact absurd h.1 hlive

/-- A weaker reason to have been dropped is as good. -/
theorem Logs.mono {dropped' : Prop}
    (h : Logs policy timeout dropped book l events stand)
    (hdropped : dropped → dropped') :
    Logs policy timeout dropped' book l events stand := by
  cases stand with
  | finished => exact ⟨h.1, h.2.1, h.2.2.imp_right hdropped⟩
  | _ => exact h

/-- **A link is dropped**, wherever it waits. -/
theorem Logs.drop (h : Logs policy timeout dropped book t.link t.events stand)
    {dropped' : Prop} (hdropped : dropped') :
    Logs policy timeout dropped' book t.release.link t.release.events
      .finished := by
  obtain ⟨news, hevents, hnews⟩ := t.release_unended
  refine ⟨by rw [link_release], ?_, Or.inr hdropped⟩
  rw [hevents]
  exact h.fate.1.append hnews

end GroundLink
