import GroundLink.Link.Hearing
import GroundLink.Port.Inbox
import GroundLink.Proofs.Link.Carry
import GroundLink.Proofs.Link.Inbound

/-!
# A link hears all that was sent

However the peer cuts what it sends, however that falls between polls, and
however much is read in one go, a link hears one stream.  Two buffers cut it
anew: the pipe keeps what has not been read, and the decoder keeps the beginning
of a frame.  Nothing is lost at either, since what the peer has sent is always
what the link has decoded, what it has read besides, and what is left in the
pipe (`Turn.Hears`).

* `Heard.takeIn` — decoding moves bytes from what has been read to what has been
  decoded;
* `Heard.startTick` — a read moves bytes out of the pipe, and fails only on an
  empty one;
* `hears_run` — and whatever else happens leaves all three alone.
-/

namespace GroundLink

/-! ## Decoders -/

namespace Decoder

/-- A byte that completes a frame counts one frame. -/
theorem frames_push (d : Decoder) (b : UInt8) :
    (d.push b).1.stats.frames =
      d.stats.frames + (d.push b).2.toList.length := by
  unfold push finish
  split
  · rfl
  · dsimp only
    split
    · split <;> rfl
    · rfl

/-- The counter of frames rises by as many as come out. -/
theorem frames_pushAll (d : Decoder) (bytes : Bytes) :
    (d.pushAll bytes).1.stats.frames =
      d.stats.frames + (d.pushAll bytes).2.length := by
  induction bytes generalizing d with
  | nil => rfl
  | cons b rest ih =>
      have hrest := ih (d.push b).1
      have hpush := d.frames_push b
      simp only [pushAll, List.length_append]
      omega

end Decoder

/-- One byte more is one push more. -/
theorem hearing_append (heard : Bytes) (b : UInt8) :
    hearing (heard ++ [b]) =
      (((hearing heard).1.push b).1,
        (hearing heard).2 ++ ((hearing heard).1.push b).2.toList) := by
  unfold hearing
  rw [Decoder.pushAll_append]
  simp [Decoder.pushAll]

/-- Every frame is counted. -/
theorem frames_hearing (heard : Bytes) :
    (hearing heard).1.stats.frames = (hearing heard).2.length :=
  (Decoder.frames_pushAll {} heard).trans (Nat.zero_add _)

/-! ## Records -/

/-- Neither a frame nor the end of the link. -/
def Event.IsAside (e : Event) : Prop := e.frame? = none ∧ e.isReport = false

/-- Asides make no difference to the frames on record. -/
theorem filterMap_aside {news : List Event} (h : ∀ e ∈ news, e.IsAside) :
    news.filterMap Event.frame? = [] := by
  rw [List.filterMap_eq_nil_iff]
  exact fun e he => (h e he).1

/-- What is no frame cannot have been refused. -/
theorem isRefusal_aside {e : Event} (h : e.IsAside) : e.isRefusal = false := by
  cases e with
  | frame f verdict => cases h.1
  | _ => rfl

/-- Asides make no difference to the refusals on record. -/
theorem countP_aside {news : List Event} (h : ∀ e ∈ news, e.IsAside) :
    news.countP Event.isRefusal = 0 := by
  rw [List.countP_eq_zero]
  intro e he
  rw [isRefusal_aside (h e he)]
  exact Bool.false_ne_true

/-- The end of a link is not among these. -/
def Unreported (events : List Event) : Prop := ∀ e ∈ events, e.isReport = false

/-- Asides say nothing of an end. -/
theorem unreported_aside {news : List Event} (h : ∀ e ∈ news, e.IsAside) :
    Unreported news :=
  fun e he => (h e he).2

/-- An end is on record in neither part. -/
theorem Unreported.append {events news : List Event} (h : Unreported events)
    (hnews : Unreported news) : Unreported (events ++ news) := by
  intro e he
  rcases List.mem_append.mp he with he | he
  · exact h e he
  · exact hnews e he

namespace Turn

variable {ε : Type} {heard rest : Bytes} {ahead : Option Frame} {t t' : Turn ε}

/-- The link has decoded `heard`, and of the frames that this makes, `ahead` has
not been decided on.  It has read `rest` besides. -/
structure Heard (heard rest : Bytes) (ahead : Option Frame) (t : Turn ε) :
    Prop where
  decoder : t.link.decoder = (hearing heard).1
  frames : t.events.filterMap Event.frame? ++ ahead.toList = (hearing heard).2
  bytesIn : t.link.stats.bytesIn = heard.length + rest.length
  framesIn : t.link.stats.framesIn = (hearing heard).1.stats.frames
  heartbeats : t.link.stats.heartbeats =
    (t.events.filterMap Event.frame?).countP Frame.isHeartbeat
  failures : t.link.stats.dispatchFailures = t.events.countP Event.isRefusal
  unreported : Unreported t.events

/-- What is sent, and what is not about frames, is nothing to what is heard. -/
theorem Heard.of_same (h : Heard heard rest ahead t)
    (hdecoder : t'.link.decoder = t.link.decoder)
    (hstats : t'.link.stats.inbound = t.link.stats.inbound) {news : List Event}
    (hevents : t'.events = t.events ++ news) (hnews : ∀ e ∈ news, e.IsAside) :
    Heard heard rest ahead t' := by
  have hframes : t'.events.filterMap Event.frame? =
      t.events.filterMap Event.frame? := by
    rw [hevents, List.filterMap_append, filterMap_aside hnews, List.append_nil]
  have hrefusals : t'.events.countP Event.isRefusal =
      t.events.countP Event.isRefusal := by
    rw [hevents, List.countP_append, countP_aside hnews, Nat.add_zero]
  have hbytesIn : t'.link.stats.bytesIn = t.link.stats.bytesIn := by
    have hcount := congrArg LinkStats.bytesIn hstats
    exact hcount
  have hframesIn : t'.link.stats.framesIn = t.link.stats.framesIn := by
    have hcount := congrArg LinkStats.framesIn hstats
    exact hcount
  have hheartbeats : t'.link.stats.heartbeats = t.link.stats.heartbeats := by
    have hcount := congrArg LinkStats.heartbeats hstats
    exact hcount
  have hfailures : t'.link.stats.dispatchFailures =
      t.link.stats.dispatchFailures := by
    have hcount := congrArg LinkStats.dispatchFailures hstats
    exact hcount
  refine ⟨?_, ?_, ?_, ?_, ?_, ?_, ?_⟩
  · rw [hdecoder, h.decoder]
  · rw [hframes, h.frames]
  · rw [hbytesIn, h.bytesIn]
  · rw [hframesIn, h.framesIn]
  · rw [hheartbeats, hframes, h.heartbeats]
  · rw [hfailures, hrefusals, h.failures]
  · rw [hevents]
    exact h.unreported.append (unreported_aside hnews)

/-! ## Decoding -/

/-- **One byte** is decoded. -/
theorem Heard.decode {b : UInt8} (h : Heard heard (b :: rest) none t) :
    Heard (heard ++ [b]) rest (t.decode b).2 (t.decode b).1 := by
  have hheard := hearing_append heard b
  have hframes : t.events.filterMap Event.frame? = (hearing heard).2 := by
    rw [← h.frames]
    exact (List.append_nil _).symm
  refine ⟨?_, ?_, ?_, ?_, h.heartbeats, h.failures, h.unreported⟩
  · rw [hheard, ← h.decoder]
    rfl
  · rw [hheard, ← h.decoder]
    exact congrArg (· ++ (t.link.decoder.push b).2.toList) hframes
  · have hcount := h.bytesIn
    rw [List.length_cons] at hcount
    rw [List.length_append, List.length_singleton]
    exact hcount.trans (by omega)
  · have hcount := h.framesIn
    rw [hheard, Decoder.frames_push, ← hcount, ← h.decoder]
    rfl

/-- What a heartbeat changes of what has been heard. -/
theorem beat_same (now : Nat) (t : Turn ε) :
    (t.beat now).endpoint = t.endpoint ∧
    (t.beat now).link.decoder = t.link.decoder ∧
      (t.beat now).link.stats =
        { t.link.stats with heartbeats := t.link.stats.heartbeats + 1 } ∧
      ∃ news, (t.beat now).events = t.events ++ news ∧ ∀ e ∈ news,
        e.IsAside := by
  cases hactive : t.link.tracker.active with
  | true =>
      rw [beat_eq_prolong hactive]
      exact ⟨rfl, rfl, rfl, [], (List.append_nil _).symm, List.forall_mem_nil _⟩
  | false =>
      obtain ⟨_, _, hevents, hdecoder⟩ := beat_of_absent hactive now
      refine ⟨?_, hdecoder, ?_, _, hevents, ?_⟩
      · rw [beat_eq_greet hactive]
        cases t.link.policy.waitForHeartbeat <;> rfl
      · rw [beat_eq_greet hactive]
        cases t.link.policy.waitForHeartbeat <;> rfl
      · simp [Event.IsAside, Event.frame?, Event.isReport]

/-- A frame is decided on without a look at the endpoint. -/
theorem weighed_endpoint (now : Nat) (f : Frame) (verdict : Except Refusal Unit)
    (t : Turn ε) :
    (t.weighed now f verdict).endpoint = t.endpoint := by
  have hjudge : (t.judge f verdict).endpoint = t.endpoint := by
    cases verdict <;> rfl
  unfold weighed
  split
  · rw [(beat_same now _).1, hjudge]
  · exact hjudge

/-- What is counted of a frame besides the heartbeat that it may be. -/
theorem stats_judge (f : Frame) (verdict : Except Refusal Unit) (t : Turn ε) :
    (t.judge f verdict).link.stats = { t.link.stats with
      dispatchFailures :=
        t.link.stats.dispatchFailures +
          (Event.frame f verdict).isRefusal.toNat } := by
  cases verdict <;> rfl

/-- **One frame** is decided on. -/
theorem Heard.weighed {f : Frame} (h : Heard heard rest (some f) t) (now : Nat)
    (verdict : Except Refusal Unit) :
    Heard heard rest none (t.weighed now f verdict) := by
  obtain ⟨_, _, hevents, hdecoder⟩ := judge_same f verdict t
  have hstats := stats_judge f verdict t
  have hframes : (t.judge f verdict).events.filterMap Event.frame? =
      t.events.filterMap Event.frame? ++ [f] := by
    rw [hevents, List.filterMap_append]
    rfl
  have hfailures : (t.judge f verdict).link.stats.dispatchFailures =
      (t.judge f verdict).events.countP Event.isRefusal := by
    rw [hstats, hevents, List.countP_append, ← h.failures]
    cases verdict <;> rfl
  have hunreported : Unreported (t.judge f verdict).events := by
    rw [hevents]
    refine h.unreported.append ?_
    intro e he
    obtain rfl := List.mem_singleton.mp he
    rfl
  have hbeats :
      (t.judge f verdict).link.stats.heartbeats + f.isHeartbeat.toNat =
      ((t.judge f verdict).events.filterMap Event.frame?).countP
        Frame.isHeartbeat := by
    rw [hframes, List.countP_append, ← h.heartbeats, hstats]
    cases hbeat : f.isHeartbeat <;> simp [hbeat]
  unfold Turn.weighed
  cases hbeat : f.isHeartbeat with
  | false =>
      rw [hbeat] at hbeats
      refine ⟨hdecoder.trans h.decoder, ?_, ?_, ?_, hbeats, hfailures,
        hunreported⟩
      · rw [← h.frames]
        exact (List.append_nil _).trans hframes
      · simpa [hstats] using h.bytesIn
      · simpa [hstats] using h.framesIn
  | true =>
      rw [hbeat] at hbeats
      obtain ⟨_, hdecoder', hstats', news, hevents', hnews⟩ :=
        beat_same now (t.judge f verdict)
      -- the heartbeat is counted on top of the frame
      have hcounted : Heard heard rest none
          ((t.judge f verdict).count fun s =>
            { s with heartbeats := s.heartbeats + 1 }) := by
        refine ⟨hdecoder.trans h.decoder, ?_, ?_, ?_, hbeats, hfailures,
          hunreported⟩
        · rw [← h.frames]
          exact (List.append_nil _).trans hframes
        · simpa [count, hstats] using h.bytesIn
        · simpa [count, hstats] using h.framesIn
      rw [if_pos rfl]
      refine hcounted.of_same hdecoder' ?_ hevents' hnews
      rw [hstats']
      rfl

end Turn

/-! ## Accounts -/

/-- The refusals on record are those of the handler that has decided. -/
theorem countP_refusals {h : Handler} {events : List Event}
    (hdecides : h.Decides events) :
    events.countP Event.isRefusal =
      (events.filterMap Event.frame?).countP h.refuses := by
  induction events with
  | nil => rfl
  | cons e events ih =>
      have hrest := ih fun f verdict hmem =>
        hdecides f verdict (List.mem_cons_of_mem e hmem)
      rw [List.countP_cons, hrest]
      cases e with
      | frame f verdict =>
          have hverdict : verdict = h.verdict f :=
            hdecides f verdict List.mem_cons_self
          have hframes :
              (Event.frame f verdict :: events).filterMap Event.frame? =
              f :: events.filterMap Event.frame? := rfl
          rw [hframes, List.countP_cons]
          unfold Handler.refuses
          rw [← hverdict]
          cases verdict <;> rfl
      | _ => rfl

/-- This handler takes heartbeats and refuses all else. -/
theorem refuses_heartbeatsOnly (f : Frame) :
    Handler.heartbeatsOnly.refuses f = ! f.isHeartbeat := by
  unfold Handler.refuses Handler.heartbeatsOnly Handler.only Frame.isHeartbeat
    Message.isHeartbeat
  by_cases hid : f.message.id = Message.heartbeatId <;> simp [hid]

/-- This handler takes manual control as well. -/
theorem refuses_counting (f : Frame) :
    Handler.counting.refuses f =
      (! f.isHeartbeat && f.message.id != Message.manualControlId) := by
  unfold Handler.refuses Handler.counting Handler.only Frame.isHeartbeat
    Message.isHeartbeat
  by_cases hid : f.message.id = Message.heartbeatId <;>
    by_cases hid' : f.message.id = Message.manualControlId <;> simp [hid, hid']

/-- A link that has decoded all that it read, and has counted the errors, has
its account. -/
theorem Turn.Heard.account {ε : Type} {heard : Bytes} {t : Turn ε}
    (h : t.Heard heard [] none)
    (hparse : t.link.stats.parseErrors = t.link.decoder.stats.parseErrors) :
    Account heard t.events t.link.stats := by
  have hframes : t.events.filterMap Event.frame? = (hearing heard).2 :=
    (List.append_nil _).symm.trans h.frames
  have hbeats := h.heartbeats
  have hrefusals : ∀ handler : Handler, handler.Decides t.events →
      t.link.stats.dispatchFailures =
        (hearing heard).2.countP handler.refuses := by
    intro handler hdecides
    rw [h.failures, countP_refusals hdecides, hframes]
  rw [hframes] at hbeats
  refine ⟨hframes, h.bytesIn, h.framesIn, ?_, hbeats, hrefusals, ?_, ?_⟩
  · rw [hparse, h.decoder]
  · intro hdecides
    have hnot : Handler.heartbeatsOnly.refuses = fun f => ! f.isHeartbeat :=
      funext refuses_heartbeatsOnly
    have hall := List.length_eq_countP_add_countP Frame.isHeartbeat
        (l := (hearing heard).2)
    simp only [Bool.not_eq_true, Bool.decide_eq_false] at hall
    rw [hrefusals _ hdecides, hnot, h.framesIn, hbeats, frames_hearing]
    omega
  · intro hdecides
    rw [hrefusals _ hdecides, funext refuses_counting]

/-! ## The end -/

/-- Nothing is on record of the end of the link; or the end is, once, and if it
is that the other side had closed, then the peer has left and all that it had
sent was decoded and decided on before. -/
def EndsFair (doings : List Peer) (events : List Event) : Prop :=
  Unreported events ∨ ∃ before report after,
    events = before ++ .terminated report :: after ∧
    Unreported before ∧ Unreported after ∧
    (report.exit = .closed →
      .leave ∈ doings ∧ Account (Peer.sent doings) before report.stats)

/-- There is no more than one end on record. -/
theorem report_unique {before after before' after' : List Event} {e e' : Event}
    (hbefore : Unreported before) (hafter : Unreported after)
    (he' : e'.isReport = true)
    (h : before ++ e :: after = before' ++ e' :: after') :
    before' = before ∧ e' = e ∧ after' = after := by
  induction before generalizing before' with
  | nil =>
      cases before' with
      | nil =>
          obtain ⟨rfl, rfl⟩ := List.cons.inj h
          exact ⟨rfl, rfl, rfl⟩
      | cons first rest =>
          have hin : e' ∈ after := by
            rw [(List.cons.inj h).2]
            exact List.mem_append_right rest List.mem_cons_self
          have hnot := hafter e' hin
          rw [he'] at hnot
          cases hnot
  | cons first rest ih =>
      cases before' with
      | nil =>
          have hnot := hbefore first List.mem_cons_self
          rw [(List.cons.inj h).1, he'] at hnot
          cases hnot
      | cons first' rest' =>
          obtain ⟨rfl, hrest⟩ := List.cons.inj h
          have hbefore' : Unreported rest := fun e he =>
            hbefore e (List.mem_cons_of_mem first he)
          obtain ⟨rfl, rfl, rfl⟩ := ih hbefore' hrest
          exact ⟨rfl, rfl, rfl⟩

variable {doings : List Peer}

/-- What is put on record later, and is no end, makes no difference to how the
link ended. -/
theorem EndsFair.append {events news : List Event} (h : EndsFair doings events)
    (hnews : Unreported news) : EndsFair doings (events ++ news) := by
  rcases h with h | ⟨before, report, after, rfl, hbefore, hafter, hclosed⟩
  · exact Or.inl (h.append hnews)
  · refine Or.inr
      ⟨before, report, after ++ news, ?_, hbefore, hafter.append hnews, hclosed⟩
    rw [List.append_assoc, List.cons_append]

/-- What the peer does later makes no difference to how the link ended. -/
theorem EndsFair.later {events : List Event} (h : EndsFair doings events)
    (a : Peer) :
    EndsFair (doings ++ [a]) events := by
  rcases h with h | ⟨before, report, after, hevents, hbefore, hafter, hclosed⟩
  · exact Or.inl h
  · refine Or.inr ⟨before, report, after, hevents, hbefore, hafter, ?_⟩
    intro hexit
    obtain ⟨hleft, haccount⟩ := hclosed hexit
    rw [Peer.sent_append_of_left hleft]
    exact ⟨List.mem_append_left [a] hleft, haccount⟩

/-- Whoever finds on record that the other side had closed has its account
there. -/
theorem EndsFair.closed {events : List Event} (h : EndsFair doings events)
    {before after : List Event} {report : Report}
    (hsplit : events = before ++ .terminated report :: after)
    (hexit : report.exit = .closed) :
    .leave ∈ doings ∧ Account (Peer.sent doings) before report.stats := by
  rcases h with
      h | ⟨before', report', after', hevents, hbefore, hafter, hclosed⟩
  · have hnot := h (.terminated report) (by simp [hsplit])
    cases hnot
  · obtain ⟨rfl, hreport, -⟩ :=
      report_unique hbefore hafter rfl (hevents.symm.trans hsplit)
    obtain rfl := Event.terminated.inj hreport
    exact hclosed hexit

namespace Turn

/-- The end of a link says nothing but that the link no longer counts as
active. -/
theorem release_aside {ε : Type} (t : Turn ε) :
    ∃ news, t.release.events = t.events ++ news ∧ ∀ e ∈ news, e.IsAside := by
  by_cases hactive : t.link.state = .active
  · refine ⟨_, (release_of_active hactive).2, ?_⟩
    simp [Event.IsAside, Event.frame?, Event.isReport]
  · refine ⟨[], ?_, List.forall_mem_nil _⟩
    rw [(release_of_not_active hactive).2, List.append_nil]

/-- The link has decoded all that it has read. -/
def CaughtUp (doings : List Peer) (t : Turn Pipe) : Prop :=
  ∃ heard, t.endpoint.Holds doings heard ∧ t.Heard heard [] none ∧
    t.link.stats.parseErrors = t.link.decoder.stats.parseErrors

/-- **What holds of a link where it waits**, after its peer has done some
things.  Of what the peer has sent the link has decoded the beginning, it may
have read some more, and the rest is in the pipe. -/
def Hears (doings : List Peer) (t : Turn Pipe) : Stand → Prop
  | .judging _ f rest =>
      ∃ heard, t.endpoint.Holds doings (heard ++ rest) ∧
        t.Heard heard rest (some f)
  | .greeting _ rest =>
      ∃ heard, t.endpoint.Holds doings (heard ++ rest) ∧ t.Heard heard rest none
  | .ending | .finished => t.link.state = .terminated ∧ EndsFair doings t.events
  | .parting exit => t.CaughtUp doings ∧ exit ≠ some .closed
  | _ => t.CaughtUp doings

variable {heard rest : Bytes} {t : Turn Pipe}

/-- A link that ends by itself.  It may say that the other side has closed only
when there is nothing left to hear. -/
theorem Heard.leave {ahead : Option Frame} (h : t.Heard heard rest ahead)
    (exit : Exit) (cue : Cue)
    (hclosed : exit = .closed → .leave ∈ doings ∧ Peer.sent doings = heard ∧
      t.Heard heard [] none ∧
      t.link.stats.parseErrors = t.link.decoder.stats.parseErrors) :
    Hears doings (t.leave exit cue).1 (t.leave exit cue).2 := by
  obtain ⟨news, hevents, hnews⟩ := t.release_aside
  refine ⟨?_, Or.inr ⟨_, _, _, events_leave exit cue t, ?_, ?_, ?_⟩⟩
  · rw [link_leave, link_release]
  · rw [hevents]
    exact h.unreported.append (unreported_aside hnews)
  · refine Unreported.append ?_ ?_
    · intro e he
      obtain ⟨total, _, rfl⟩ := List.mem_map.mp he
      rfl
    · intro e he
      obtain rfl := List.mem_singleton.mp he
      rfl
  · intro hexit
    obtain ⟨hleft, hsent, hall, hparse⟩ := hclosed hexit
    have hreleased : t.release.Heard heard [] none :=
      hall.of_same (by rw [link_release]) (by rw [link_release]) hevents hnews
    rw [hsent]
    exact ⟨hleft, hreleased.account (by rw [link_release, hparse])⟩

/-- A look at the clock says nothing about frames. -/
theorem checkDeadline_same (now : Nat) (t : Turn Pipe) :
    (t.checkDeadline now).1.endpoint = t.endpoint ∧
      (t.checkDeadline now).1.link.decoder = t.link.decoder ∧
      (t.checkDeadline now).1.link.stats = t.link.stats ∧
      ∃ news, (t.checkDeadline now).1.events = t.events ++ news ∧ ∀ e ∈ news,
        e.IsAside := by
  by_cases hlate : (t.link.tracker.poll now).2 = .deactivated
  · have haside : ∀ e ∈ [Event.lowered, .idled], e.IsAside := by
      simp [Event.IsAside, Event.frame?, Event.isReport]
    rw [checkDeadline_of_deactivated hlate]
    cases t.link.policy.waitForHeartbeat
    all_goals
      exact ⟨rfl, rfl, rfl, _, by simp [note, miss, setChannelActive], haside⟩
  · rw [checkDeadline_eq hlate]
    exact ⟨rfl, rfl, rfl, [], (List.append_nil _).symm, List.forall_mem_nil _⟩

/-- A link that looks at the clock does not find that the other side has
closed. -/
theorem exit_checkDeadline_ne (now : Nat) (t : Turn Pipe) :
    (t.checkDeadline now).2 ≠ some .closed := by
  rw [exit_checkDeadline]
  split
  · split <;> nofun
  · nofun

/-- **The end of a poll**: the errors are counted, and the deadline is looked
at. -/
theorem Heard.endTick (h : t.Heard heard [] none)
    (hholds : t.endpoint.Holds doings heard) (now : Nat) (cue : Cue) :
    Hears doings (t.endTick now cue).1 (t.endTick now cue).2 := by
  have hcounted : Heard heard [] none (t.count fun s =>
      { s with parseErrors := t.link.decoder.stats.parseErrors }) := { h with }
  have hnot := exit_checkDeadline_ne now (t.count fun s =>
    { s with parseErrors := t.link.decoder.stats.parseErrors })
  obtain ⟨hendpoint, hdecoder, hstats, news, hevents, hnews⟩ :=
    checkDeadline_same now
    (t.count fun s =>
        { s with parseErrors := t.link.decoder.stats.parseErrors })
  unfold Turn.endTick
  dsimp only
  generalize (t.count fun s =>
    { s with parseErrors := t.link.decoder.stats.parseErrors }).checkDeadline
      now = result at *
  obtain ⟨t', exit⟩ := result
  dsimp only at hendpoint hdecoder hstats hevents hnot
  have hheard : t'.Heard heard [] none :=
    hcounted.of_same hdecoder (congrArg LinkStats.inbound hstats) hevents hnews
  have hthere : t'.endpoint.Holds doings heard := by rwa [hendpoint]
  have hparse :
      t'.link.stats.parseErrors = t'.link.decoder.stats.parseErrors := by
    rw [hstats, hdecoder]
    rfl
  split
  · next exit' _ heq =>
      obtain ⟨rfl, rfl⟩ := Prod.mk.inj heq
      exact ⟨⟨heard, hthere, hheard, hparse⟩, hnot⟩
  · next exit' heq _ =>
      obtain ⟨rfl, rfl⟩ := Prod.mk.inj heq
      refine hheard.leave exit' cue ?_
      rintro rfl
      exact absurd rfl hnot
  · next heq _ =>
      obtain ⟨rfl, rfl⟩ := Prod.mk.inj heq
      exact ⟨heard, hthere, hheard, hparse⟩

/-- **Decoding goes on** up to the next frame, or to the end of the poll. -/
theorem Heard.takeIn (h : t.Heard heard rest none)
    (hholds : t.endpoint.Holds doings (heard ++ rest)) (now : Nat) (cue : Cue) :
    Hears doings (t.takeIn now cue rest).1 (t.takeIn now cue rest).2 := by
  induction rest generalizing heard t with
  | nil =>
      rw [List.append_nil] at hholds
      exact h.endTick hholds now cue
  | cons b rest ih =>
      rw [List.append_cons] at hholds
      have hdecoded := h.decode
      have hsame : (t.decode b).1.endpoint = t.endpoint := rfl
      rw [← hsame] at hholds
      unfold Turn.takeIn
      rcases hdecode : t.decode b with ⟨t', _ | f⟩
      · rw [hdecode] at hdecoded hholds
        exact ih hdecoded hholds
      · rw [hdecode] at hdecoded hholds
        exact ⟨_, hholds, hdecoded⟩

/-- With the verdict on its frame the link has decided on all it has decoded,
and goes on with the rest. -/
theorem Heard.weigh {f : Frame} (h : t.Heard heard rest (some f))
    (hholds : t.endpoint.Holds doings (heard ++ rest)) (now : Nat) (cue : Cue) :
    Hears doings (t.weigh now f rest cue).1 (t.weigh now f rest cue).2 := by
  have hweighed := h.weighed now cue.verdict
  rw [← weighed_endpoint now f cue.verdict t] at hholds
  rcases weigh_cases now f rest cue t with heq | heq
  · rw [heq]
    exact hweighed.takeIn hholds now cue
  · rw [heq]
    exact ⟨heard, hholds, hweighed⟩

/-! ## Reading -/

/-- Writing does not end a link for any other reason than a failed write. -/
theorem exit_drainWithin_cases (chunk attempts : Nat) (t : Turn Pipe) :
    (drainWithin chunk attempts t).2 = none ∨
      (drainWithin chunk attempts t).2 = some .writeError := by
  induction attempts generalizing t with
  | zero => exact Or.inl rfl
  | succ attempts ih =>
      unfold drainWithin
      dsimp only
      split
      · exact Or.inl rfl
      · split
        · exact Or.inl rfl
        · exact ih _
        · unfold writeFailed
          dsimp only
          split
          · exact Or.inr rfl
          · exact Or.inl rfl

/-- **However writing goes**, what was heard was heard, and what is in the pipe
stays there. -/
theorem Heard.drain {ahead : Option Frame} (h : t.Heard heard rest ahead)
    (hholds : t.endpoint.Holds doings heard) (chunk : Nat) :
    (t.drain chunk).1.Heard heard rest ahead ∧
    (t.drain chunk).1.endpoint.Holds doings heard ∧
      (t.drain chunk).1.link.stats.parseErrors = t.link.stats.parseErrors ∧
      (t.drain chunk).1.link.decoder = t.link.decoder := by
  have halike := alike_drain Pipe.inbox chunk t
  have hsame : SameSide t (t.drain chunk).1 := sameSide_drainWithin chunk _ t
  have hevents : (t.drain chunk).1.events = t.events ++ [] := by
    rw [hsame.events, List.append_nil]
  have hparse : (t.drain chunk).1.link.stats.parseErrors =
      t.link.stats.parseErrors := by
    have hcount := congrArg LinkStats.parseErrors halike.stats
    exact hcount.symm
  have hpipe : t.endpoint.incoming = (t.drain chunk).1.endpoint.incoming :=
    halike.holds
  refine ⟨h.of_same hsame.decoder halike.stats.symm hevents nofun, ?_, hparse,
    hsame.decoder⟩
  refine hholds.of_same ?_ ?_ ?_
  · have hinbound := congrArg Pipe.inbound hpipe
    exact hinbound.symm
  · have hgone := congrArg Pipe.peerGone hpipe
    exact hgone.symm
  · have hpresent := congrArg Pipe.endpointGone hpipe
    exact hpresent.symm

/-- **A read** takes the next bytes out of the pipe; or there are none, and the
peer is gone. -/
theorem Heard.read (h : t.Heard heard [] none)
    (hholds : t.endpoint.Holds doings heard)
    (hparse : t.link.stats.parseErrors = t.link.decoder.stats.parseErrors)
    (size : Nat) :
    (∃ bytes, (t.read size).2 = .ok bytes ∧
      (t.read size).1.Heard heard bytes none ∧
        (t.read size).1.endpoint.Holds doings (heard ++ bytes)) ∨
      (t.read size).2 = .error .closed ∧ .leave ∈ doings ∧
      Peer.sent doings = heard ∧
        (t.read size).1.Heard heard [] none ∧
        (t.read size).1.link.stats.parseErrors =
          (t.read size).1.link.decoder.stats.parseErrors := by
  have hport : Endpoint.read t.endpoint size = t.endpoint.read size := rfl
  unfold Turn.read
  rw [hport]
  rcases hholds.read_cases size with
      ⟨bytes, hanswer, hrest⟩ | ⟨hanswer, hleft, hsent⟩
  · refine Or.inl ⟨bytes, ?_⟩
    generalize t.endpoint.read size = result at hanswer hrest ⊢
    obtain ⟨pipe, answer⟩ := result
    dsimp only at hanswer
    subst hanswer
    refine ⟨rfl, { h with bytesIn := ?_ }, hrest⟩
    exact congrArg (· + bytes.length) h.bytesIn
  · refine Or.inr ?_
    generalize t.endpoint.read size = result at hanswer ⊢
    obtain ⟨pipe, answer⟩ := result
    dsimp only at hanswer
    subst hanswer
    exact ⟨rfl, hleft, hsent, { h with }, hparse⟩

/-- **A poll begins**: the link writes, reads and decodes. -/
theorem Heard.startTick (h : t.Heard heard [] none)
    (hholds : t.endpoint.Holds doings heard)
    (hparse : t.link.stats.parseErrors = t.link.decoder.stats.parseErrors)
    (config : LinkConfig) (cue : Cue) :
    Hears doings (t.startTick config cue).1 (t.startTick config cue).2 := by
  have hexit : (t.drain config.writeChunk).2 = none ∨
      (t.drain config.writeChunk).2 = some .writeError :=
    exit_drainWithin_cases _ _ t
  obtain ⟨hdrained, hthere, hparse₁, hdecoder₁⟩ :=
    h.drain hholds config.writeChunk
  unfold Turn.startTick
  split
  · exact h.leave .evicted cue nofun
  · generalize t.drain config.writeChunk = drained
      at hexit hdrained hthere hparse₁ hdecoder₁ ⊢
    obtain ⟨t₁, exit⟩ := drained
    dsimp only at hexit hdrained hthere hparse₁ hdecoder₁
    rcases hexit with rfl | rfl
    · rw [← hparse₁, ← hdecoder₁] at hparse
      have hread := hdrained.read hthere hparse config.readBuffer
      dsimp only
      generalize t₁.read config.readBuffer = answered at hread ⊢
      obtain ⟨t₂, answer⟩ := answered
      dsimp only at hread
      rcases hread with
          ⟨bytes, rfl, hheard, hrest⟩ | ⟨rfl, hleft, hsent, hheard, hparse₂⟩
      · exact hheard.takeIn hrest cue.now cue
      · exact hheard.leave .closed cue fun _ => ⟨hleft, hsent, hheard, hparse₂⟩
    · exact hdrained.leave .writeError cue nofun

/-! ## Stretches of work -/

/-- To begin makes no difference to what has been heard. -/
theorem Heard.begin {ahead : Option Frame} (h : t.Heard heard rest ahead) :
    t.begin.Heard heard rest ahead := by
  obtain ⟨hlink, _, hevents⟩ := t.begin_same
  refine h.of_same (congrArg Link.decoder hlink) ?_ hevents ?_
  · exact congrArg (fun l => l.stats.inbound) hlink
  · simp [Event.IsAside, Event.frame?, Event.isReport]

/-- **A stretch of work.** -/
theorem Hears.resume {stand : Stand} (h : t.Hears doings stand)
    (config : LinkConfig) (cue : Cue) :
    Hears doings (t.resume config cue stand).1
      (t.resume config cue stand).2 := by
  cases stand with
  | connected =>
      obtain ⟨heard, hholds, hheard, hparse⟩ := h
      obtain ⟨hlink, hendpoint, _⟩ := t.begin_same
      refine ⟨heard, ?_, hheard.begin, ?_⟩
      · exact hendpoint ▸ hholds
      · exact hlink ▸ hparse
  | beginning => exact h
  | waiting =>
      obtain ⟨heard, hholds, hheard, hparse⟩ := h
      exact hheard.startTick hholds hparse config cue
  | judging now f rest =>
      obtain ⟨heard, hholds, hheard⟩ := h
      exact hheard.weigh hholds now cue
  | greeting now rest =>
      obtain ⟨heard, hholds, hheard⟩ := h
      exact hheard.takeIn hholds now cue
  | parting exit =>
      cases exit with
      | none => exact h.1
      | some exit =>
          obtain ⟨⟨heard, _, hheard, _⟩, hnot⟩ := h
          refine hheard.leave exit cue ?_
          rintro rfl
          exact absurd rfl hnot
  | ending => exact h
  | finished => exact h

/-! ## Between stretches of work -/

/-- It does not matter what the link shares with others. -/
theorem Heard.anywhere {ahead : Option Frame} (h : t.Heard heard rest ahead)
    (b : Board) :
    ({ t with board := b } : Turn Pipe).Heard heard rest ahead := { h with }

/-- What a link has heard does not depend on the board. -/
theorem Hears.anywhere {stand : Stand} (h : t.Hears doings stand) (b : Board) :
    ({ t with board := b } : Turn Pipe).Hears doings stand := by
  have hcaught (h : t.CaughtUp doings) :
      ({ t with board := b } : Turn Pipe).CaughtUp doings := by
    obtain ⟨heard, hholds, hheard, hparse⟩ := h
    exact ⟨heard, hholds, hheard.anywhere b, hparse⟩
  cases stand with
  | judging now f rest =>
      obtain ⟨heard, hholds, hheard⟩ := h
      exact ⟨heard, hholds, hheard.anywhere b⟩
  | greeting now rest =>
      obtain ⟨heard, hholds, hheard⟩ := h
      exact ⟨heard, hholds, hheard.anywhere b⟩
  | parting exit => exact ⟨hcaught h.1, h.2⟩
  | ending => exact h
  | finished => exact h
  | _ => exact hcaught h

/-- **What the peer does** is in the pipe, wherever the link waits. -/
theorem Hears.later {stand : Stand} (h : t.Hears doings stand) (a : Peer) :
    ({ t with endpoint := a.act t.endpoint } : Turn Pipe).Hears
      (doings ++ [a]) stand := by
  have hheard {heard rest : Bytes} {ahead : Option Frame}
      (h : t.Heard heard rest ahead) :
      ({ t with endpoint := a.act t.endpoint } : Turn Pipe).Heard heard rest
        ahead := { h with }
  have hcaught (h : t.CaughtUp doings) :
      ({ t with endpoint := a.act t.endpoint } : Turn Pipe).CaughtUp
        (doings ++ [a]) := by
    obtain ⟨heard, hholds, hheard', hparse⟩ := h
    exact ⟨heard, hholds.act a, hheard hheard', hparse⟩
  cases stand with
  | judging now f rest =>
      obtain ⟨heard, hholds, hheard'⟩ := h
      exact ⟨heard, hholds.act a, hheard hheard'⟩
  | greeting now rest =>
      obtain ⟨heard, hholds, hheard'⟩ := h
      exact ⟨heard, hholds.act a, hheard hheard'⟩
  | parting exit => exact ⟨hcaught h.1, h.2⟩
  | ending => exact ⟨h.1, h.2.later a⟩
  | finished => exact ⟨h.1, h.2.later a⟩
  | _ => exact hcaught h

/-- A link that has caught up with its peer has no end on record. -/
theorem CaughtUp.endsFair (h : t.CaughtUp doings) :
    EndsFair doings t.events := by
  obtain ⟨heard, _, hheard, _⟩ := h
  exact Or.inl hheard.unreported

/-- At any wait, what is on record of an end is fair. -/
theorem Hears.endsFair {stand : Stand} (h : t.Hears doings stand) :
    EndsFair doings t.events := by
  cases stand with
  | judging now f rest =>
      obtain ⟨heard, _, hheard⟩ := h
      exact Or.inl hheard.unreported
  | greeting now rest =>
      obtain ⟨heard, _, hheard⟩ := h
      exact Or.inl hheard.unreported
  | parting exit => exact h.1.endsFair
  | ending => exact h.2
  | finished => exact h.2
  | _ => exact CaughtUp.endsFair h

/-- A link that is dropped says nothing more. -/
theorem Hears.drop {stand : Stand} (h : t.Hears doings stand) :
    t.release.Hears doings .finished := by
  obtain ⟨news, hevents, hnews⟩ := t.release_aside
  refine ⟨by rw [link_release], ?_⟩
  rw [hevents]
  exact h.endsFair.append (unreported_aside hnews)

end Turn

namespace Traffic

variable {w : Traffic Pipe} {k : Nat} {c : Course Pipe}

/-- The peer of link `k` does something. -/
theorem hears_peer (hk : w.courses[k]? = some c)
    (h : (c.turn w.board).Hears doings c.stand) (a : Peer) :
    ∃ c', (w.act (.far k a.act)).courses[k]? = some c' ∧
      (c'.turn (w.act (.far k a.act)).board).Hears
        (doings ++ [a]) c'.stand := by
  have hact : w.act (.far k a.act) =
      { w with
        courses := w.courses.set k { c with endpoint := a.act c.endpoint } } := by
    simp only [act, hk]
  have hlt : k < w.courses.length := (List.getElem?_eq_some_iff.mp hk).1
  refine ⟨{ c with endpoint := a.act c.endpoint }, ?_, (h.later a).anywhere _⟩
  rw [hact]
  exact List.getElem?_set_self hlt

/-- Something else happens. -/
theorem hears_other (hk : w.courses[k]? = some c)
    (h : (c.turn w.board).Hears doings c.stand) {a : Act Pipe}
    (notFar : ∀ f, a ≠ .far k f) :
    ∃ c', (w.act a).courses[k]? = some c' ∧
      (c'.turn (w.act a).board).Hears doings c'.stand := by
  rcases course_act hk a with hsame | ⟨t, stand, hwork, hcommit, hk'⟩
  · exact ⟨c, hsame, h.anywhere _⟩
  · refine ⟨c.after t stand, hk', ?_⟩
    rw [hcommit]
    cases hwork with
    | resume cue => exact h.resume c.config cue
    | drop => exact h.drop
    | far f => exact absurd rfl (notFar f)

/-- **One thing happens**, and link `k` hears its peer. -/
theorem hears_act (hk : w.courses[k]? = some c)
    (h : (c.turn w.board).Hears doings c.stand) (config : LinkConfig)
    (x : Dealing) :
    ∃ c', (w.act (x.act config)).courses[k]? = some c' ∧
      (c'.turn (w.act (x.act config)).board).Hears
        (doings ++ (x.doing? k).toList) c'.stand := by
  cases hdoing : x.doing? k with
  | some a =>
      rw [Dealing.act_of_doing config hdoing]
      exact hears_peer hk h a
  | none =>
      obtain ⟨c', hk', h'⟩ :=
        hears_other hk h (Dealing.act_ne_far config hdoing)
      refine ⟨c', hk', ?_⟩
      rwa [Option.toList_none, List.append_nil]

/-- **Any things in any order** happen. -/
theorem hears_run (hk : w.courses[k]? = some c)
    (h : (c.turn w.board).Hears doings c.stand) (config : LinkConfig)
    (xs : List Dealing) :
    ∃ c', (w.run (xs.map (·.act config))).courses[k]? = some c' ∧
      (c'.turn (w.run (xs.map (·.act config))).board).Hears
        (doings ++ xs.filterMap (·.doing? k)) c'.stand := by
  induction xs generalizing w c doings with
  | nil =>
      refine ⟨c, hk, ?_⟩
      rw [List.filterMap_nil, List.append_nil]
      exact h
  | cons x xs ih =>
      obtain ⟨c₁, hk₁, h₁⟩ := hears_act hk h config x
      obtain ⟨c', hk', h'⟩ := ih hk₁ h₁
      have hdoings : doings ++ (x :: xs).filterMap (·.doing? k) =
          doings ++ (x.doing? k).toList ++ xs.filterMap (·.doing? k) := by
        cases hdoing : x.doing? k <;> simp [hdoing]
      rw [hdoings]
      exact ⟨c', hk', h'⟩

end Traffic

/-- A link that has caught up with its peer has its account. -/
theorem Turn.CaughtUp.account {t : Turn Pipe} (h : t.CaughtUp doings) :
    ∃ heard, Peer.sent doings = heard ++ t.endpoint.inbound ∧
      Account heard t.events t.link.stats := by
  obtain ⟨heard, hholds, hheard, hparse⟩ := h
  exact ⟨heard, hholds.stream, hheard.account hparse⟩

/-- The same of a link on its way. -/
theorem Turn.Hears.hasHeard {c : Course Pipe} {b : Board}
    (h : (c.turn b).Hears doings c.stand) :
    c.HasHeard doings := by
  have hsoFar : c.link.state ≠ .terminated → c.stand.isDecoding = false →
      ∃ heard, Peer.sent doings = heard ++ c.endpoint.inbound ∧
        Account heard c.events c.link.stats := by
    intro hlive hdecoded
    cases hstand : c.stand with
    | judging now f rest =>
        rw [hstand] at hdecoded
        cases hdecoded
    | greeting now rest =>
        rw [hstand] at hdecoded
        cases hdecoded
    | parting exit =>
        rw [hstand] at h
        exact h.1.account
    | ending =>
        rw [hstand] at h
        exact absurd h.1 hlive
    | finished =>
        rw [hstand] at h
        exact absurd h.1 hlive
    | _ =>
        rw [hstand] at h
        exact Turn.CaughtUp.account h
  refine ⟨hsoFar, ?_, fun before report after hsplit hexit =>
      h.endsFair.closed hsplit hexit⟩
  intro hlive hdecoded hempty
  obtain ⟨heard, hsent, haccount⟩ := hsoFar hlive hdecoded
  have hinbound : c.endpoint.inbound = [] := hempty
  rw [hinbound, List.append_nil] at hsent
  rwa [hsent]

/-! ## Pipes in pieces -/

/-- Parcels answer every read and write as the pipe does that they are
packed from. -/
theorem keeps_asPipe :
    Endpoint.Keeps Parcels.asPipe := ⟨Parcels.asPipe_read, Parcels.asPipe_write⟩

/-- The same happens over pipes in pieces. -/
theorem Dealing.carries_asPipe (config : LinkConfig) (x : Dealing) :
    (x.act config).Carries Parcels.asPipe (x.act config) := by
  cases x with
  | connect name policy now early =>
      have hconnect :=
        Act.Carries.connect (p := Parcels.asPipe) name policy config now
        (Peered.filled early)
      rwa [Parcels.asPipe_filled] at hconnect
  | resume k cue => exact .resume k cue
  | drop k => exact .drop k
  | peer k doing => exact .far k fun p => p.asPipe_after doing
  | ask op => exact .ask op

/-- Whether a link has heard its peer is the same for a pipe in pieces. -/
theorem Course.HasHeard.of_asPipe {c : Course Parcels}
    (h : (c.carry Parcels.asPipe).HasHeard doings) : c.HasHeard doings :=
  ⟨h.soFar, h.all, h.closed⟩

/-- **What a link hears does not depend on how it was cut.**  However the peer
has cut what it sent, whenever it did, and however much the link reads in one
go: record and counters are those of one stream.  It is the same for a pipe that
keeps what was sent piece by piece. -/
theorem account_independent_of_cuts : HearsAll Pipe ∧ HearsAll Parcels := by
  have hpipe : HearsAll Pipe := by
    intro w name policy config now early c₀ hc dealings
    obtain ⟨pool, claim, _, rfl, _⟩ := Traffic.act_connect hc
    have hnew (b : Board) : (Course.turn
        { link := .connect name claim .memory policy config now, config,
          endpoint := (Peered.filled early : Pipe) } b).Hears early
            .connected :=
      ⟨[], Pipe.holds_filled early, ⟨rfl, rfl, rfl, rfl, rfl, rfl, nofun⟩, rfl⟩
    obtain ⟨c, hk, h⟩ := Traffic.hears_run hc (hnew _) config dealings
    exact ⟨c, hk, h.hasHeard⟩
  refine ⟨hpipe, ?_⟩
  intro w name policy config now early c₀ hc dealings
  -- with the pieces put together, it is what happens over pipes
  have hcarries (acts : List Dealing) :
      List.Forall₂ (Act.Carries Parcels.asPipe)
      (acts.map (·.act config)) (acts.map (·.act config)) := by
    rw [List.forall₂_map_left_iff, List.forall₂_map_right_iff]
    exact List.forall₂_same.mpr fun x _ => x.carries_asPipe config
  have hrun (acts : List Dealing) :=
    Traffic.carry_run (w := w) keeps_asPipe (fun _ => rfl) (hcarries acts)
  have hlength : (w.carry Parcels.asPipe).courses.length = w.courses.length :=
    List.length_map _
  have hconnected := hrun [.connect name policy now early]
  have hrest := hrun (.connect name policy now early :: dealings)
  simp only [List.map_cons, List.map_nil, Traffic.run_cons, Traffic.run_nil]
    at hconnected hrest
  have hc' :
      ((w.carry Parcels.asPipe).act ((Dealing.connect name policy now early).act
      config)).courses[(w.carry Parcels.asPipe).courses.length]? =
        some (c₀.carry Parcels.asPipe) := by
    rw [← hconnected, hlength, Traffic.carry_course, hc, Option.map_some]
  obtain ⟨c', hk', hheard⟩ :=
    hpipe _ name policy config now early _ hc' dealings
  rw [← hrest, hlength, Traffic.carry_course] at hk'
  rw [hlength] at hheard
  obtain ⟨c, hk, rfl⟩ := Option.map_eq_some_iff.mp hk'
  exact ⟨c, hk, hheard.of_asPipe⟩

/-- Two heartbeats, with noise between them. -/
def chatter : Bytes :=
  Frame.encode ⟨.v2, ⟨1, 1, 0⟩, (Heartbeat.ofAutopilot 0).toMessage⟩ ++
    [1, 2, 3] ++
    Frame.encode ⟨.v1, ⟨1, 1, 1⟩, (Heartbeat.ofAutopilot 0).toMessage⟩

/-- The peer has sent a little before the link is there.  The link reads eleven
bytes in one go. -/
def overheard : Traffic Parcels :=
  (Traffic.start (.single 4)).act
    ((Dealing.connect "gcs" {} 0 [.send (chatter.take 5)]).act
      { readBuffer := 11 })

/-- Then the peer sends the rest in three parts, one of them empty, and
leaves. -/
def chatting : List Dealing :=
  [.resume 0 ⟨0, .ok (), none⟩, .resume 0 ⟨0, .ok (), none⟩,
    .resume 0 ⟨1, .ok (), none⟩, .peer 0 (.send ((chatter.drop 5).take 20)),
    .peer 0 (.send []), .peer 0 (.send (chatter.drop 25)), .peer 0 .leave] ++
  List.replicate 12 (.resume 0 ⟨2, .ok (), none⟩)

/-- The link says that the other side has closed, and has heard all. -/
theorem chatter_heard :
    ∃ c,
      (overheard.run (chatting.map (·.act { readBuffer := 11 }))).courses[0]? =
        some c ∧
      c.HasHeard (.send (chatter.take 5) :: chatting.filterMap (·.doing? 0)) ∧
      c.link.state = .terminated ∧ c.link.stats.bytesIn = chatter.length ∧
      c.link.stats.heartbeats = 2 := by
  have hvalues :
      (overheard.run
        (chatting.map (·.act { readBuffer := 11 }))).courses[0]?.map
      (fun c => (c.link.state, c.link.stats.bytesIn, c.link.stats.heartbeats)) =
        some (.terminated, chatter.length, 2) := by decide +kernel
  obtain ⟨c, hc, hheard⟩ :=
    account_independent_of_cuts.2 (.start (.single 4)) "gcs" {}
    { readBuffer := 11 } 0 [.send (chatter.take 5)] _ rfl chatting
  have hcourse :
      (overheard.run (chatting.map (·.act { readBuffer := 11 }))).courses[0]? =
      some c := hc
  rw [hcourse] at hvalues
  simp only [Option.map_some, Option.some.injEq, Prod.mk.injEq] at hvalues
  exact ⟨c, hcourse, hheard, hvalues⟩

end GroundLink
