import GroundLink.Link.Lobby
import GroundLink.Proofs.Link.ActiveCount
import GroundLink.Proofs.Link.Carry
import GroundLink.Proofs.Link.Possession
import GroundLink.Proofs.Link.Tick
import GroundLink.Station.Command

/-!
# A station is traffic behind a desk

A station runs its lines in whole ticks, one task after the other, under a clock
of its own.  Whatever it does is what can happen in a lobby, one thing right
after the other:

* `Gets.onwards` — a tick is acts of one link that nothing comes between;
* `follows_poll`, `follows_drop`, `follows_connect` — the life of a line;
* `follows_execute` — every command;
* `after_mirrored` — and so any commands, from the creation of the station on.

`Follows` keeps count of the links that are asked for at the front desk, and of
the requests to the downlink that take a channel or give one back: both are the
commands' own, and nothing that a station does by itself is one.

What holds of all traffic therefore holds of every station, as do the count of
active links (`links_after`) and the order in the pool (`sound_after`).
-/

namespace GroundLink

theorem keeps_id {ε : Type} [Endpoint ε] : Endpoint.Keeps (id : ε → ε) :=
  ⟨fun _ _ => rfl, fun _ _ => rfl⟩

/-- A link with a past goes on as it does without. -/
theorem Turn.Onward.carry {ε : Type} [Endpoint ε] {config : LinkConfig}
    {handler : Handler} {cue : Cue} {a b : Turn ε × Stand}
    (h : Onward config handler cue a b) (past : List Event) :
    Onward config handler cue (carryStretch id past a)
      (carryStretch id past b) := by
  obtain ⟨hwithin, rfl⟩ := h
  exact ⟨hwithin, carry_resume past a.1 keeps_id config _ a.2⟩

namespace Traffic

variable {ε : Type} [Endpoint ε] {w : Traffic ε} {k : Nat} {c : Course ε}
  {t : Turn ε} {stand : Stand}

/-! ## Acts of one link -/

/-- Acts of its own bring link `k` to `t` and let it wait at `stand`. -/
def Gets (w : Traffic ε) (k : Nat) (c : Course ε) (t : Turn ε) (stand : Stand) :
    Prop :=
  ∃ acts, (∀ a ∈ acts, a.isTransfer = false) ∧ w.run acts = w.commit k c t stand

/-- No acts at all leave a link where it is. -/
theorem gets_refl (hk : w.courses[k]? = some c) :
    w.Gets k c (c.turn w.board) c.stand := by
  refine ⟨[], by simp, ?_⟩
  obtain ⟨hlt, hget⟩ := List.getElem?_eq_some_iff.mp hk
  have hsame : w.courses.set k c = w.courses := by
    rw [← hget, List.set_getElem_self]
  have hafter : c.after (c.turn w.board) c.stand = c := rfl
  unfold commit
  rw [run_nil, hafter, hsame]
  rfl

omit [Endpoint ε] in
/-- Of two stretches of work of one link the second counts. -/
theorem commit_commit (t' : Turn ε) (stand' : Stand) :
    (w.commit k c t stand).commit k (c.after t stand) t' stand' =
      w.commit k c t' stand' := by
  simp only [commit, List.set_set]
  rfl

/-- One more act of the link. -/
theorem Gets.act (h : w.Gets k c t stand) {a : Act ε} {t' : Turn ε}
    {stand' : Stand} (hown : a.isTransfer = false)
    (ha : (w.commit k c t stand).act a = (w.commit k c t stand).commit k
      (c.after t stand) t' stand') :
    w.Gets k c t' stand' := by
  obtain ⟨acts, howns, hacts⟩ := h
  refine ⟨acts ++ [a], ?_, ?_⟩
  · intro b hb
    rcases List.mem_append.mp hb with hb | hb
    · exact howns b hb
    · obtain rfl := List.mem_singleton.mp hb
      exact hown
  · rw [run_append, hacts, run_cons, run_nil, ha, commit_commit]

/-- The link goes on once more. -/
theorem Gets.resume (h : w.Gets k c t stand) (hk : w.courses[k]? = some c)
    (cue : Cue) :
    w.Gets k c (t.resume c.config cue stand).1
      (t.resume c.config cue stand).2 := by
  have hafter : (w.commit k c t stand).courses[k]? =
      some (c.after t stand) := by
    rw [courses_commit hk, if_pos rfl]
  exact h.act rfl (act_resume hafter cue)

/-- The link is dropped. -/
theorem Gets.drop (h : w.Gets k c t stand) (hk : w.courses[k]? = some c) :
    w.Gets k c t.release .finished := by
  have hafter : (w.commit k c t stand).courses[k]? =
      some (c.after t stand) := by
    rw [courses_commit hk, if_pos rfl]
  exact h.act rfl (act_drop hafter)

/-- Something happens at the other end of the link. -/
theorem Gets.far (h : w.Gets k c t stand) (hk : w.courses[k]? = some c)
    (f : ε → ε) :
    w.Gets k c { t with endpoint := f t.endpoint } stand := by
  have hafter : (w.commit k c t stand).courses[k]? =
      some (c.after t stand) := by
    rw [courses_commit hk, if_pos rfl]
  refine h.act (a := .far k f) rfl ?_
  simp only [Traffic.act, hafter]
  rfl

/-- **Going on at once**, wait after wait, is acts of the link. -/
theorem Gets.onwards (h : w.Gets k c t stand) (hk : w.courses[k]? = some c)
    {handler : Handler} {cue : Cue} {result : Turn ε × Stand}
    (honwards : Turn.Onwards c.config handler cue (t, stand) result) :
    w.Gets k c result.1 result.2 := by
  induction honwards with
  | refl => exact h
  | tail _ hstep ih =>
      obtain ⟨_, rfl⟩ := hstep
      exact ih.resume hk _

/-- **A whole tick** is acts of the link. -/
theorem Gets.tick (h : w.Gets k c (t.carry id c.events) .waiting)
    (hk : w.courses[k]? = some c) (handler : Handler) (cue : Cue) :
    w.Gets k c
      ((Turn.settle cue (t.tick c.config handler cue.now)).1.carry id c.events)
      (Turn.settle cue (t.tick c.config handler cue.now)).2 := by
  have hstart := h.resume hk cue
  have honwards : Turn.Onwards c.config handler cue
      (Turn.carryStretch id c.events (t.resume c.config cue .waiting))
      (Turn.carryStretch id c.events
        (Turn.settle cue (t.tick c.config handler cue.now))) :=
    (Turn.tick_stretches c.config handler cue t).lift _ fun _ _ hstep =>
      hstep.carry c.events
  rw [Turn.carry_resume c.events t keeps_id] at honwards
  exact hstart.onwards hk honwards

end Traffic

/-! ## The mirror -/

/-- Where the link of a line waits between two tasks of the station. -/
def Stage.stand : Stage → Stand
  | .connected => .connected
  | .running _ => .waiting
  | .over => .finished

/-- The link of a line on its way, without its past. -/
def Line.course (config : LinkConfig) (line : Line) : Course Port :=
  { link := line.link, config, endpoint := line.port,
    stand := line.stage.stand }

/-- The link without its past. -/
def Course.present {ε : Type} (c : Course ε) : Course ε :=
  { c with events := [] }

/-- What a beacon asks of the downlink in a round. -/
def Beacon.requests (b : Beacon) : List Downlink.Op :=
  .sendHeartbeat Message.autopilotComponent b.heartbeat ::
    if b.camera then [.sendHeartbeat Message.cameraComponent Heartbeat.ofCamera]
      else []

/-- How many links a run asks for at the front desk: one if a serial line is
named and can be opened. -/
def Config.serialSpawns (config : Config) (device : Serial.Device) : Nat :=
  match config.serial with
  | none => 0
  | some serial =>
      match Serial.openLine device serial with
      | .ok () => 1
      | .error _ => 0

namespace Station

/-- How many links a command asks for at the front desk. -/
def Command.spawns (config : Config) : Command → Nat
  | .spawn .. => 1
  | .startRun device => config.serialSpawns device
  | _ => 0

/-- Whether a command is a request that takes a channel or gives one back. -/
def Command.isTransfer : Command → Bool
  | .downlink op => op.isTransfer
  | _ => false

/-- The station and the lobby are in the same state, but for what is on
record. -/
structure Mirrors (s : Station) (l : Lobby Port) : Prop where
  downlink : l.traffic.downlink = s.downlink
  active : l.traffic.active = s.active
  courses : l.traffic.courses.map Course.present =
    s.lines.map (Line.course s.config.link)
  started : l.started = s.front.started
  refused : l.refused = s.front.refused

/-- What leads from `s` to `s'` can happen in a lobby.  So many links are asked
for at the desk, and so many requests take a channel or give one back. -/
structure Follows (s s' : Station) (spawns : Nat := 0) (transfers : Nat := 0) :
    Prop where
  config : s'.config = s.config
  visits : ∀ l : Lobby Port, s.Mirrors l → ∃ visits,
    visits.countP Visit.isSpawn = spawns ∧
    visits.countP Visit.isTransfer = transfers ∧ s'.Mirrors (l.run visits)

variable {s s' : Station} {l : Lobby Port} {k : Nat} {line : Line}
  {c : Course Port}

/-- What happens in two parts can happen in a lobby one after the other, and
takes the spawns and the transfers of both. -/
theorem Follows.trans {s₁ s₂ s₃ : Station} {n n' m m' : Nat}
    (h₁₂ : s₁.Follows s₂ n m) (h₂₃ : s₂.Follows s₃ n' m') :
    s₁.Follows s₃ (n + n') (m + m') := by
  refine ⟨h₂₃.config.trans h₁₂.config, ?_⟩
  intro l hl
  obtain ⟨visits, hspawns, htransfers, hvisits⟩ := h₁₂.visits l hl
  obtain ⟨more, hspawns', htransfers', hmore⟩ := h₂₃.visits _ hvisits
  refine ⟨visits ++ more, ?_, ?_, ?_⟩
  · rw [List.countP_append, hspawns, hspawns']
  · rw [List.countP_append, htransfers, htransfers']
  · rw [Lobby.run_append]
    exact hmore

/-- Acts that are no transfers, with nobody at the desk. -/
theorem Follows.of_acts (hconfig : s'.config = s.config)
    (h : ∀ l : Lobby Port, s.Mirrors l → ∃ acts,
      (∀ a ∈ acts, a.isTransfer = false) ∧
      s'.Mirrors { l with traffic := l.traffic.run acts }) :
    s.Follows s' := by
  refine ⟨hconfig, ?_⟩
  intro l hl
  obtain ⟨acts, hacts, hmirror⟩ := h l hl
  refine ⟨acts.map .act, ?_, ?_, ?_⟩
  · rw [List.countP_map]
    exact List.countP_eq_zero.mpr fun _ _ => nofun
  · rw [List.countP_map]
    exact List.countP_eq_zero.mpr fun a ha => by
      simp [Visit.isTransfer, Visit.toAct, hacts a ha]
  · rw [Lobby.run_acts]
    exact hmirror

/-- What is not about lines, channels and counters needs no act. -/
theorem Follows.of_same
    (h : (s'.downlink, s'.active, s'.lines, s'.config, s'.front) =
      (s.downlink, s.active, s.lines, s.config, s.front)) : s.Follows s' := by
  simp only [Prod.mk.injEq] at h
  obtain ⟨hdownlink, hactive, hlines, hconfig, hfront⟩ := h
  refine .of_acts hconfig ?_
  intro l hl
  refine ⟨[], by simp, hdownlink ▸ hl.downlink, hactive ▸ hl.active, ?_,
    hfront ▸ hl.started, hfront ▸ hl.refused⟩
  rw [hlines, hconfig]
  exact hl.courses

/-- Nothing at all can happen in a lobby. -/
theorem Follows.refl (s : Station) : s.Follows s := .of_same rfl

/-- Line `k` has its link on its way. -/
theorem Mirrors.course (h : s.Mirrors l) (hk : s.lines[k]? = some line) :
    ∃ c, l.traffic.courses[k]? = some c ∧
      c.present = line.course s.config.link := by
  have hboth := congrArg (·[k]?) h.courses
  simp only [List.getElem?_map, hk, Option.map_some] at hboth
  exact Option.map_eq_some_iff.mp hboth

/-- All that the link can touch, with its past. -/
theorem Mirrors.turn (h : s.Mirrors l)
    (hc : c.present = line.course s.config.link) :
    c.turn l.traffic.board = (s.turn line).carry id c.events := by
  have hlink : c.link = line.link := congrArg Course.link hc
  have hport : c.endpoint = line.port := congrArg Course.endpoint hc
  simp only [Course.turn, Traffic.board, Turn.carry, Station.turn,
    Station.board, hlink, hport, h.downlink, h.active, id_eq, List.append_nil]

/-! What else a desk counts than links is no part of the mirror. -/

@[simp] theorem downlink_countAt (s : Station) (desk : Desk)
    (f : DeskCount → DeskCount) :
    (s.countAt desk f).downlink = s.downlink := by cases desk <;> rfl

@[simp] theorem active_countAt (s : Station) (desk : Desk)
    (f : DeskCount → DeskCount) :
    (s.countAt desk f).active = s.active := by cases desk <;> rfl

@[simp] theorem lines_countAt (s : Station) (desk : Desk)
    (f : DeskCount → DeskCount) :
    (s.countAt desk f).lines = s.lines := by cases desk <;> rfl

@[simp] theorem config_countAt (s : Station) (desk : Desk)
    (f : DeskCount → DeskCount) :
    (s.countAt desk f).config = s.config := by cases desk <;> rfl

@[simp] theorem started_countAt (s : Station) (desk : Desk)
    (f : DeskCount → DeskCount) :
    (s.countAt desk f).front.started =
      if desk = .front then (f s.front).started else s.front.started := by
        cases desk <;> rfl

@[simp] theorem refused_countAt (s : Station) (desk : Desk)
    (f : DeskCount → DeskCount) :
    (s.countAt desk f).front.refused =
      if desk = .front then (f s.front).refused else s.front.refused := by
        cases desk <;> rfl

/-- What a line's work comes to is what its link's acts come to. -/
theorem Mirrors.commit (h : s.Mirrors l)
    (hc : c.present = line.course s.config.link) {t : Turn Port} (stage : Stage)
    (hgets : l.traffic.Gets k c (t.carry id c.events) stage.stand) :
    ∃ acts, (∀ a ∈ acts, a.isTransfer = false) ∧
      (s.commit k line t stage).Mirrors
        { l with traffic := l.traffic.run acts } := by
  obtain ⟨acts, howns, hacts⟩ := hgets
  refine ⟨acts, howns, ?_⟩
  rw [hacts]
  have hconfig : c.config = s.config.link := congrArg Course.config hc
  have hafter : (c.after (t.carry id c.events) stage.stand).present =
      ({ line with link := t.link, port := t.endpoint, stage } : Line).course
        s.config.link := by
    simp only [Course.present, Course.after, Line.course, Turn.carry, id_eq,
      hconfig]
  refine ⟨?_, ?_, ?_, ?_, ?_⟩
  · simp only [Traffic.commit, Station.commit, downlink_countAt, withBoard,
      Turn.carry, h.downlink]
  · simp only [Traffic.commit, Station.commit, active_countAt, withBoard,
      Turn.carry]
  · simp only [Traffic.commit, Station.commit, lines_countAt, config_countAt,
      withBoard, List.map_set, h.courses, hafter]
  · simp only [Station.commit, started_countAt, withBoard, ite_self, h.started]
  · simp only [Station.commit, refused_countAt, withBoard, ite_self, h.refused]

/-! ## The life of a line -/

/-- What the link of a line gets to know in a tick. -/
def tickCue (s : Station) (desk : Desk) (t : Turn Port) : Cue where
  now := s.clock
  total :=
    if s.handler.reportsTotal then
      some ((s.count desk).frames + t.events.countP Event.isFrame)
    else none

/-- The last words of a tick are those that the handler has at its desk. -/
theorem lastWords_tickCue (s : Station) (desk : Desk) (t : Turn Port) :
    (s.tickCue desk t).lastWords = s.lastWords desk t := by
  unfold Cue.lastWords tickCue lastWords
  cases s.handler.reportsTotal <;> rfl

/-- The journal of a station is not what a lobby mirrors. -/
theorem follows_journal (s : Station) (journal : List Entry) :
    s.Follows { s with journal } := .of_same rfl

/-- **A poll** is acts of the link: those of a tick, and if the tick ends the
link, its end and the endpoint's. -/
theorem Mirrors.pollTurn (h : s.Mirrors l) (hk : l.traffic.courses[k]? = some c)
    (hc : c.present = line.course s.config.link) {t : Turn Port}
    (hgets : l.traffic.Gets k c (t.carry id c.events) .waiting) :
    ∃ acts, (∀ a ∈ acts, a.isTransfer = false) ∧
      (s.pollTurn k line t).Mirrors
        { l with traffic := l.traffic.run acts } := by
  have hconfig : c.config = s.config.link := congrArg Course.config hc
  unfold Station.pollTurn
  rcases htick : t.tick s.config.link s.handler s.clock with ⟨t', _ | exit⟩
  · have htick' := hgets.tick hk s.handler { now := s.clock }
    rw [hconfig, htick] at htick'
    exact h.commit hc (.running _) htick'
  · have htick' := hgets.tick hk s.handler (s.tickCue line.desk t')
    have hnow : (s.tickCue line.desk t').now = s.clock := rfl
    rw [hconfig, hnow, htick] at htick'
    have hover : l.traffic.Gets k c
        ((hangUp (t'.finish exit s.clock (s.lastWords line.desk t'))).carry id
          c.events)
        .finished := by
      rw [← lastWords_tickCue]
      exact (htick'.resume hk { now := s.clock }).far hk
        fun port => { port with pipe := port.pipe.dropEndpoint }
    obtain ⟨acts, howns, hacts⟩ := h.commit hc .over hover
    exact ⟨acts, howns, hacts.downlink, hacts.active, hacts.courses,
      hacts.started, hacts.refused⟩

@[simp] theorem config_commit (s : Station) (k : Nat) (line : Line)
    (t : Turn Port) (stage : Stage) :
    (s.commit k line t stage).config = s.config := by
  simp [Station.commit, withBoard]

@[simp] theorem config_pollTurn (s : Station) (k : Nat) (line : Line)
    (t : Turn Port) :
    (s.pollTurn k line t).config = s.config := by
  unfold Station.pollTurn
  split <;> simp

/-- A poll is acts of the one link. -/
theorem follows_poll (hk : s.lines[k]? = some line)
    (hrunning : line.stage.stand = .waiting) :
    s.Follows (s.poll k) := by
  unfold poll
  rw [hk]
  refine .of_acts (config_pollTurn ..) ?_
  intro l hl
  obtain ⟨c, hck, hc⟩ := hl.course hk
  have hgets := Traffic.gets_refl hck
  have hstand : c.stand = .waiting := (congrArg Course.stand hc).trans hrunning
  rw [hl.turn hc, hstand] at hgets
  exact hl.pollTurn hck hc hgets

/-- Starting is to begin, and then to poll. -/
theorem follows_start (s : Station) (k : Nat) : s.Follows (s.start k) := by
  unfold start
  cases hk : s.lines[k]? with
  | none => exact .refl s
  | some line =>
      by_cases hconnected : line.stage = .connected
      · simp only [hconnected, if_true]
        refine .of_acts (config_pollTurn ..) ?_
        intro l hl
        obtain ⟨c, hck, hc⟩ := hl.course hk
        have hgets := Traffic.gets_refl hck
        have hstand : c.stand = .connected := by
          have hstage : c.stand = line.stage.stand := congrArg Course.stand hc
          rw [hstage, hconnected]
          rfl
        rw [hl.turn hc, hstand] at hgets
        have hbegun :=
          (hgets.resume hck { now := s.clock }).resume hck { now := s.clock }
        have hbegin : ((s.turn line).carry id c.events).begin =
            (s.turn line).begin.carry id c.events :=
          (Turn.carry_begin id c.events _).symm
        refine hl.pollTurn hck hc ?_
        rw [← hbegin]
        exact hbegun
      · simp only [hconnected, if_false]
        exact .refl s

/-- Dropping a line is to drop its link, and its endpoint after it. -/
theorem follows_drop (s : Station) (k : Nat) : s.Follows (s.drop k) := by
  have hcommit : ∀ line, s.lines[k]? = some line →
      s.Follows (s.commit k line (hangUp (s.turn line).release) .over) := by
    intro line hk
    refine .of_acts (config_commit ..) ?_
    intro l hl
    obtain ⟨c, hck, hc⟩ := hl.course hk
    have hgets := Traffic.gets_refl hck
    rw [hl.turn hc] at hgets
    have hover := (hgets.drop hck).far hck
      fun port => { port with pipe := port.pipe.dropEndpoint }
    rw [← Turn.carry_release] at hover
    exact hl.commit hc .over hover
  unfold drop
  cases hk : s.lines[k]? with
  | none => exact .refl s
  | some line =>
      dsimp only
      split
      · exact .refl s
      · exact hcommit line hk
      · exact (hcommit line hk).trans (follows_journal _ _)

@[simp] theorem config_connect (s : Station) (desk : Desk) (name : String)
    (policy : Policy) (port : Port) :
    (s.connect desk name policy port).1.config = s.config := by
  unfold connect
  split <;> simp

/-- Wherever it is connected, a line is a link of the traffic, unless it is
refused. -/
theorem Mirrors.connect (h : s.Mirrors l) (desk : Desk) (name : String)
    (policy : Policy) (port : Port) :
    let s' := (s.connect desk name policy port).1
    let w := l.traffic.connect name policy s.config.link s.clock port
    w.downlink = s'.downlink ∧ w.active = s'.active ∧
      w.courses.map Course.present =
        s'.lines.map (Line.course s.config.link) := by
  unfold Station.connect Traffic.connect
  rw [h.downlink]
  cases hclaim : s.downlink.pool.claim with
  | mk pool granted =>
      cases granted with
      | none =>
          exact ⟨by simp [h.downlink], by simp [h.active], by simp [h.courses]⟩
      | some claim =>
          refine ⟨by simp, by simp [h.active], ?_⟩
          simp only [List.map_append, h.courses, lines_countAt]
          rfl

/-- The front desk counts whether a line was connected or refused. -/
theorem follows_connect_front (s : Station) (name : String) (policy : Policy)
    (port : Port) :
    s.Follows (s.connect .front name policy port).1 1 := by
  refine ⟨config_connect .., ?_⟩
  intro l hl
  obtain ⟨hdownlink, hactive, hcourses⟩ := hl.connect .front name policy port
  have hcount :
      (l.visit (.spawn name policy s.config.link s.clock port)).started =
        (s.connect .front name policy port).1.front.started ∧
      (l.visit (.spawn name policy s.config.link s.clock port)).refused =
        (s.connect .front name policy port).1.front.refused := by
    unfold Lobby.visit Lobby.spawn Station.connect
    dsimp only
    rw [hl.downlink]
    cases hclaim : s.downlink.pool.claim with
    | mk pool granted => cases granted <;> simp [hl.started, hl.refused]
  refine ⟨[.spawn name policy s.config.link s.clock port], by
      simp [Visit.isSpawn],
    by simp [Visit.isTransfer, Visit.toAct, Act.isTransfer], ?_⟩
  rw [Lobby.run_cons, Lobby.run_nil]
  refine ⟨?_, ?_, ?_, hcount.1, hcount.2⟩
  all_goals rw [Lobby.traffic_visit]
  · exact hdownlink
  · exact hactive
  · rw [config_connect]
    exact hcourses

/-- The side desk has counters of its own. -/
theorem follows_connect_side (s : Station) (name : String) (policy : Policy)
    (port : Port) :
    s.Follows (s.connect .side name policy port).1 := by
  refine .of_acts (config_connect ..) ?_
  intro l hl
  obtain ⟨hdownlink, hactive, hcourses⟩ := hl.connect .side name policy port
  have hfront : (s.connect .side name policy port).1.front = s.front := by
    unfold Station.connect
    split <;> rfl
  refine ⟨[.connect name policy s.config.link s.clock port], by
      simp [Act.isTransfer],
    hdownlink, hactive, ?_, ?_, ?_⟩
  · rw [config_connect]
    exact hcourses
  · rw [hfront]
    exact hl.started
  · rw [hfront]
    exact hl.refused

/-- A link is asked for at the front desk, and the lobby turns it away where the
station does. -/
theorem follows_spawn (s : Station) (name : String) (policy : Policy)
    (port : Port) :
    s.Follows (s.spawn .front name policy port).1 1 := by
  have hconnect := s.follows_connect_front name policy port
  unfold spawn
  rcases hanswer : s.connect .front name policy port with ⟨s₁, error | k⟩ <;>
    rw [hanswer] at hconnect
  · exact hconnect
  · exact hconnect.trans (s₁.follows_start k)

/-- What happens to the port of a line from outside is an act of the far end. -/
theorem follows_port (hk : s.lines[k]? = some line) (f : Port → Port) :
    s.Follows
      { s with lines := s.lines.set k { line with port := f line.port } } := by
  refine .of_acts rfl ?_
  intro l hl
  obtain ⟨c, hck, hc⟩ := hl.course hk
  have hport : c.endpoint = line.port := congrArg Course.endpoint hc
  have hcourse : ({ c with endpoint := f c.endpoint } : Course Port).present =
      ({ line with port := f line.port } : Line).course s.config.link := by
    have hset :=
      congrArg (fun c : Course Port => { c with endpoint := f line.port }) hc
    rw [hport]
    exact hset
  refine ⟨[.far k f], by simp [Act.isTransfer], ?_⟩
  rw [Traffic.run_cons, Traffic.run_nil]
  simp only [Traffic.act, hck]
  refine ⟨hl.downlink, hl.active, ?_, hl.started, hl.refused⟩
  simp only [List.map_set, hl.courses, hcourse]

/-- What happens to a pipe happens at the far end of its link. -/
theorem follows_onPipe {α : Type} (s : Station) (k : Nat) (absent : α)
    (f : Pipe → Pipe × α) :
    s.Follows (s.onPipe k absent f).1 := by
  unfold onPipe
  cases hk : s.lines[k]? with
  | none => exact .refl s
  | some line => exact follows_port hk fun port =>
      { port with pipe := (f port.pipe).1 }

/-- A fault that reads are to run into is set at the far end of the link. -/
theorem follows_failReads (s : Station) (k : Nat) (fault : Option Fault) :
    s.Follows { s with lines := s.lines.modify k fun line =>
      { line with port := { line.port with readFault := fault } } } := by
  cases hk : s.lines[k]? with
  | none =>
      have hlen := List.getElem?_eq_none_iff.mp hk
      rw [List.modify_eq_self hlen]
      exact .refl s
  | some line =>
      have hset : s.lines.modify k (fun line =>
          { line with port := { line.port with readFault := fault } }) =
          s.lines.set k
            { line with port := { line.port with readFault := fault } } := by
        rw [List.modify_eq_set_getElem?, hk]
        rfl
      rw [hset]
      exact follows_port hk fun port => { port with readFault := fault }

/-! ## Channels and beacons -/

/-- Requests to the downlink, one after the other. -/
theorem follows_requests (s : Station) (ops : List Downlink.Op) :
    s.Follows { s with downlink := s.downlink.run ops } 0
      (ops.countP Downlink.Op.isTransfer) := by
  have hrun : ∀ w : Traffic Port, w.run (ops.map .ask) =
      { w with downlink := w.downlink.run ops } := by
    induction ops with
    | nil => exact fun _ => rfl
    | cons op rest ih =>
        intro w
        rw [List.map_cons, Traffic.run_cons, ih]
        rfl
  refine ⟨rfl, ?_⟩
  intro l hl
  refine ⟨(ops.map .ask).map .act, ?_, ?_, ?_⟩
  · rw [List.countP_map]
    exact List.countP_eq_zero.mpr fun _ _ => nofun
  · rw [List.countP_map, List.countP_map]
    rfl
  · rw [Lobby.run_acts, hrun, hl.downlink]
    exact ⟨rfl, hl.active, hl.courses, hl.started, hl.refused⟩

/-- The round of a beacon is requests to the downlink. -/
theorem round_requests (b : Beacon) (d : Downlink) :
    (b.round d).1 = d.run b.requests := by
  unfold Beacon.round Beacon.requests
  cases b.camera <;> rfl

/-- Heartbeats take no channel and give none back. -/
theorem transfers_requests (b : Beacon) :
    b.requests.countP Downlink.Op.isTransfer = 0 := by
  unfold Beacon.requests
  cases b.camera <;> rfl

/-- A beacon's round takes no channel and gives none back. -/
theorem follows_beaconRound (s : Station) (i : Nat) :
    s.Follows (s.beaconRound i) := by
  unfold beaconRound
  cases s.beacons[i]? with
  | none => exact .refl s
  | some b =>
      have hround := s.follows_requests b.beacon.requests
      rw [← round_requests, transfers_requests] at hround
      exact hround.trans (.of_same (by rfl))

/-- A beacon is none of the lobby's links. -/
theorem follows_startBeacon (s : Station) (config : TelemetryConfig) :
    s.Follows (s.startBeacon config).1 := by
  have hbeacons : ∀ beacons, s.Follows { s with beacons } := fun _ =>
    .of_same rfl
  unfold startBeacon
  dsimp only
  split
  · exact hbeacons _
  · exact (hbeacons _).trans (follows_beaconRound _ _)

theorem follows_stopBeacon (s : Station) (i : Nat) :
    s.Follows (s.stopBeacon i) :=
  .of_same rfl

/-! ## The clock -/

/-- The earliest of several tasks is one of them. -/
theorem earliest_mem (first : Nat × Task) (rest : List (Nat × Task)) :
    rest.foldl earlier first ∈ first :: rest := by
  induction rest generalizing first with
  | nil => exact List.mem_singleton_self first
  | cons second rest ih =>
      rw [List.foldl_cons]
      rcases List.mem_cons.mp (ih (earlier first second)) with heq | hmem
      · rw [heq]
        unfold earlier
        split
        · exact List.mem_cons_of_mem first List.mem_cons_self
        · exact List.mem_cons_self
      · exact List.mem_cons_of_mem first (List.mem_cons_of_mem second hmem)

/-- What is done next was planned. -/
theorem nextTask_mem {horizon : Nat} {due : Nat × Task}
    (h : s.nextTask horizon = some due) :
    due ∈ s.agenda := by
  unfold nextTask at h
  split at h
  · cases h
  · next first rest hfilter =>
      obtain rfl := Option.some.inj h
      have hmem := earliest_mem first rest
      rw [← hfilter] at hmem
      exact (List.mem_filter.mp hmem).1

/-- Polls are planned of running lines only. -/
theorem poll_planned {time : Nat} (h : (time, .poll k) ∈ s.agenda) :
    ∃ line, s.lines[k]? = some line ∧ line.stage.stand = .waiting := by
  rcases List.mem_append.mp h with hpoll | hround
  · obtain ⟨⟨line, j⟩, hmem, hdue⟩ := List.mem_filterMap.mp hpoll
    obtain ⟨next, hnext, heq⟩ := Option.map_eq_some_iff.mp hdue
    obtain ⟨rfl, hj⟩ := Prod.mk.inj heq
    obtain rfl := Task.poll.inj hj
    refine ⟨line, List.mem_zipIdx_iff_getElem?.mp hmem, ?_⟩
    unfold pollDue at hnext
    split at hnext
    · next hstage => rw [hstage]; rfl
    · cases hnext
  · obtain ⟨_, _, hdue⟩ := List.mem_filterMap.mp hround
    obtain ⟨_, _, heq⟩ := Option.map_eq_some_iff.mp hdue
    cases heq

theorem follows_clock (s : Station) (clock : Nat) :
    s.Follows { s with clock } :=
  .of_same rfl

/-- What falls due on the way happens at its own time. -/
theorem follows_advanceWithin (horizon tasks : Nat) (s : Station) :
    s.Follows (advanceWithin horizon tasks s) := by
  induction tasks generalizing s with
  | zero => exact s.follows_clock horizon
  | succ tasks ih =>
      unfold advanceWithin
      cases hnext : s.nextTask horizon with
      | none => exact s.follows_clock horizon
      | some due =>
          obtain ⟨time, task⟩ := due
          have hmem := nextTask_mem hnext
          have htask : ({ s with clock := time } : Station).Follows
              ({ s with clock := time }.perform task) := by
            cases task with
            | poll k =>
                obtain ⟨line, hk, hrunning⟩ := poll_planned hmem
                exact follows_poll (s := { s with clock := time }) hk hrunning
            | round i => exact follows_beaconRound _ i
          exact ((s.follows_clock time).trans htask).trans (ih _)

/-! ## Commands -/

/-- What each of several steps can do, they can do in a row. -/
theorem follows_foldl {α : Type} {f : Station → α → Station}
    (h : ∀ (s : Station) (a : α), s.Follows (f s a)) (as : List α)
    (s : Station) :
    s.Follows (as.foldl f s) := by
  induction as generalizing s with
  | nil => exact .refl s
  | cons a rest ih => exact (h s a).trans (ih (f s a))

theorem follows_stopRun (s : Station) : s.Follows s.stopRun :=
  ((follows_foldl follows_drop s.run.lines s).trans
    (follows_foldl follows_stopBeacon s.run.beacons _)).trans
      (.of_same (by rfl))

/-- A serial line asks for one link, if the station is told to spawn it. -/
theorem follows_startSerial (s : Station) (device : Serial.Device) :
    s.Follows (s.startSerial device).1 (s.config.serialSpawns device) := by
  unfold startSerial Config.serialSpawns
  cases s.config.serial with
  | none => exact .refl s
  | some config =>
      dsimp only
      rcases Serial.openLine device config with error | _
      · exact .refl s
      · have hspawn := s.follows_spawn s!"serial {config.device}" .serial
          { transport := .serial }
        rcases hanswer : s.spawn .front s!"serial {config.device}" .serial
          { transport := .serial } with ⟨s₁, error | k⟩ <;> rw [hanswer]
            at hspawn
        · exact hspawn
        · exact hspawn.trans (.of_same (by rfl))

/-- Telemetry is one beacon, or none. -/
theorem follows_startTelemetry (s : Station) : s.Follows s.startTelemetry := by
  unfold startTelemetry
  cases s.config.telemetry with
  | none => exact .refl s
  | some config =>
      exact (s.follows_startBeacon config).trans (.of_same (by rfl))

/-- **Every command** is acts of traffic. -/
theorem follows_execute (s : Station) (command : Command) :
    s.Follows (s.execute command).1 (command.spawns s.config)
      (if command.isTransfer then 1 else 0) := by
  cases command with
  | downlink op =>
      have hrequest := s.follows_requests [op]
      rw [List.countP_singleton] at hrequest
      exact hrequest
  | spawn name policy transport =>
      exact s.follows_spawn name policy { transport }
  | connect name policy transport =>
      exact s.follows_connect_side name policy { transport }
  | start k => exact s.follows_start k
  | drop k => exact s.follows_drop k
  | send k bytes => exact s.follows_onPipe k false (·.send bytes)
  | close k => exact s.follows_onPipe k () fun p => (p.dropPeer, ())
  | failWrites k fail => exact s.follows_onPipe k () fun p =>
      ({ p with failWrites := fail }, ())
  | limitWrites k limit => exact s.follows_onPipe k () fun p =>
      ({ p with writeLimit := limit }, ())
  | takeWritten k => exact s.follows_onPipe k [] Pipe.takeWritten
  | failReads k fault => exact s.follows_failReads k fault
  | advance duration => exact follows_advanceWithin _ _ s
  | checkFailsafe armed => exact .of_same rfl
  | startBeacon config =>
      exact (s.follows_startBeacon config).trans (.of_same (by rfl))
  | setHeartbeat heartbeat =>
      simp only [execute]
      cases s.requested with
      | none => exact .refl s
      | some i => exact .of_same rfl
  | stopBeacon =>
      simp only [execute]
      cases s.requested with
      | none => exact .refl s
      | some i => exact .of_same rfl
  | startRun device =>
      have hserial := s.follows_startSerial device
      simp only [execute]
      rcases hanswer : s.startSerial device with ⟨s₁, error | _⟩ <;>
        rw [hanswer] at hserial
      · exact hserial.trans s₁.follows_stopRun
      · exact hserial.trans s₁.follows_startTelemetry
  | stopRun => exact s.follows_stopRun

/-- The station after commands, one after the other. -/
def after (s : Station) (commands : List Command) : Station :=
  commands.foldl (fun s command => (s.execute command).1) s

/-- Commands in a row: their spawns and transfers add up. -/
theorem follows_after (s : Station) (commands : List Command) :
    s.Follows (s.after commands) ((commands.map (·.spawns s.config)).sum)
      (commands.countP Command.isTransfer) := by
  induction commands generalizing s with
  | nil => exact .refl s
  | cons command rest ih =>
      have hfirst := s.follows_execute command
      have hboth := hfirst.trans (ih (s.execute command).1)
      rw [hfirst.config] at hboth
      rw [List.countP_cons, List.map_cons, List.sum_cons,
        Nat.add_comm (rest.countP _)]
      exact hboth

/-- A new station stands beside an empty lobby with the same channels. -/
theorem mirrors_create {config : Config} {handler : Handler}
    (h : Station.create config handler = .ok s) :
    s.Mirrors (.start s.downlink) ∧ s.config = config ∧
      Pool.create? config.channels config.queueCapacity =
        some s.downlink.pool := by
  unfold Station.create at h
  split at h
  · cases h
  · cases h
    exact ⟨⟨rfl, rfl, rfl, rfl, rfl⟩, rfl, (Option.some_get _).symm⟩

/-- **Whatever a station does is traffic behind a desk.**  Its commands alone
ask for links at the front desk, and they alone take channels and give them back
without a link. -/
theorem after_mirrored {config : Config} {handler : Handler}
    (h : Station.create config handler = .ok s) (commands : List Command) :
    ∃ visits, visits.countP Visit.isSpawn =
      (commands.map (·.spawns config)).sum ∧
      visits.countP Visit.isTransfer = commands.countP Command.isTransfer ∧
      (s.after commands).Mirrors ((Lobby.start s.downlink).run visits) := by
  obtain ⟨hstart, rfl, _⟩ := mirrors_create h
  exact (s.follows_after commands).visits _ hstart

/-- In every station the count is the number of links that are active. -/
theorem links_after {config : Config} {handler : Handler}
    (h : Station.create config handler = .ok s) (commands : List Command) :
    (s.after commands).active.links =
      (s.after commands).lines.countP fun line =>
        line.link.state == .active := by
  obtain ⟨visits, _, _, hmirror⟩ := after_mirrored h commands
  have hcounted :=
    (Traffic.counted_start s.downlink).run (visits.map Visit.toAct)
  have hcourses := congrArg (List.countP Course.isActive) hmirror.courses
  rw [List.countP_map, List.countP_map, Lobby.traffic_run] at hcourses
  rw [← hmirror.active, Lobby.traffic_run]
  exact hcounted.count.trans hcourses

/-- In every station the channels are in order. -/
theorem sound_after {config : Config} {handler : Handler}
    (h : Station.create config handler = .ok s) (commands : List Command) :
    (s.after commands).pool.Sound := by
  obtain ⟨visits, _, _, hmirror⟩ := after_mirrored h commands
  obtain ⟨_, _, hcreate⟩ := mirrors_create h
  have hsound :=
    ((Traffic.sound_start hcreate).run (visits.map Visit.toAct)).pool
  have hpool := hmirror.downlink
  rw [Lobby.traffic_run] at hpool
  unfold pool
  rw [← hpool]
  exact hsound

end Station

end GroundLink
