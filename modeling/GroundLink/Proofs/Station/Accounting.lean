import GroundLink.Proofs.Link.Tenancy
import GroundLink.Proofs.Station.Mirror

/-!
# The books of a station

Where only links take channels and give them back, a station always knows where
it stands: as many channels are occupied as there are links, and every link that
was asked for at the front desk has been counted, as started or as refused.  A
link is let in, on the lowest free channel, exactly while there are fewer links
than channels; one that is refused leaves no trace but in the count.  When all
links have ended, every channel is free and clean and no link counts as active.

`Lobby.Accounted` says so of a lobby, where a link may be dropped wherever it
waits, in the middle of a tick too; `Station.Accounted` says so of a station
that carries out commands.  The one leads to the other because a station is
mirrored by a lobby (`Station.after_mirrored`).
-/

namespace GroundLink

namespace Lobby

variable {ε : Type} [Endpoint ε]

/-- The books are in order, after so many calls at the desk. -/
structure Accounted (channels calls : Nat) (l : Lobby ε) : Prop where
  occupied : l.traffic.downlink.pool.occupiedCount = l.traffic.live
  bounded : l.traffic.live ≤ channels
  counted : l.started + l.refused = calls
  /-- While there are fewer links than channels, one more gets the lowest free
  channel. -/
  admits : ∀ name policy config now endpoint, l.traffic.live < channels →
    ∃ claim pool, l.traffic.downlink.pool.Takes claim pool ∧
      l.spawn name policy config now endpoint =
        ({ traffic := { l.traffic with
             downlink := { l.traffic.downlink with pool }
             courses := l.traffic.courses ++ [{
               link := .connect name claim (Endpoint.transport endpoint) policy
                 config now
               config, endpoint }] }
           started := l.started + 1
           refused := l.refused },
          .ok l.traffic.courses.length)
  /-- Otherwise it is refused, and nothing but the count of those refused is
  changed. -/
  refuses : ∀ name policy config now endpoint, channels ≤ l.traffic.live →
    l.spawn name policy config now endpoint =
      ({ l with refused := l.refused + 1 }, .error (.poolExhausted channels))
  cleared : l.traffic.live = 0 →
    l.traffic.downlink.pool.Cleared ∧ l.traffic.active.links = 0

variable {channels calls : Nat} {l : Lobby ε}

/-- A lobby with its tenants in order is accounted for. -/
theorem accounted_of_tenanted (h : l.traffic.Tenanted channels)
    (hcalls : l.started + l.refused = calls) : l.Accounted channels calls where
  occupied := h.occupied
  bounded := h.live_le
  counted := hcalls
  admits := by
    intro name policy config now endpoint hroom
    obtain ⟨claim, hclaim⟩ := h.exists_claim_iff.mpr hroom
    refine ⟨claim, l.traffic.downlink.pool.claim.1,
      h.sound.pool.takes hclaim, ?_⟩
    have hboth : l.traffic.downlink.pool.claim =
        (l.traffic.downlink.pool.claim.1, some claim) := by rw [← hclaim]
    unfold spawn Traffic.connect
    rw [hboth]
  refuses := by
    intro name policy config now endpoint hfull
    have hnone : l.traffic.downlink.pool.claim.2 = none := by
      rw [Option.eq_none_iff_forall_ne_some]
      intro claim hclaim
      have hroom := h.exists_claim_iff.mp ⟨claim, hclaim⟩
      omega
    unfold spawn
    rw [hnone, h.capacity]
  cleared := h.clear

end Lobby

namespace Station

/-- How many lines have a link that has not ended. -/
def live (s : Station) : Nat := s.lines.countP (·.link.isLive)

/-- The books are in order, after so many calls at the front desk. -/
structure Accounted (channels calls : Nat) (s : Station) : Prop where
  occupied : s.stats.occupied = s.live
  bounded : s.stats.occupied ≤ channels
  counted : s.stats.started + s.stats.refused = calls
  /-- While there are fewer links than channels, one more gets the lowest free
  channel. -/
  admits : ∀ name policy port, s.live < channels →
    (s.spawn .front name policy port).2 = .ok s.lines.length ∧
      ∃ line, (s.spawn .front name policy port).1.lines[s.lines.length]? =
        some line ∧
        s.pool.Takes line.link.claim s.pool.claim.1
  /-- Otherwise it is refused, and nothing but the count of those refused is
  changed. -/
  refuses : ∀ name policy port, channels ≤ s.live →
    s.spawn .front name policy port =
      ({ s with front := { s.front with refused := s.front.refused + 1 } },
        .error (.poolExhausted channels))
  cleared : s.live = 0 → s.pool.Cleared ∧ s.active.links = 0

variable {channels calls n m : Nat} {s s' : Station} {l : Lobby Port} {k : Nat}
  {line : Line}

/-- The links of a station are those of its lobby. -/
theorem Mirrors.live (h : s.Mirrors l) : s.live = l.traffic.live := by
  have hcourses := congrArg (List.countP (·.link.isLive)) h.courses
  rw [List.countP_map, List.countP_map] at hcourses
  exact hcourses.symm

/-- Whatever a station does, a line keeps the claim of its link. -/
theorem Follows.claim (h : s.Follows s' n m) (hl : s.Mirrors l)
    (hk : s.lines[k]? = some line) :
    ∃ line', s'.lines[k]? = some line' ∧
      line'.link.claim = line.link.claim := by
  obtain ⟨visits, _, _, hmirror⟩ := h.visits l hl
  obtain ⟨c, hck, hc⟩ := hl.course hk
  obtain ⟨c', hck', hbecomes⟩ :=
    Traffic.becomes_run hck (visits.map Visit.toAct)
  rw [← Lobby.traffic_run] at hck'
  have hboth := congrArg (·[k]?) hmirror.courses
  simp only [List.getElem?_map, hck', Option.map_some] at hboth
  obtain ⟨line', hk', hline'⟩ := Option.map_eq_some_iff.mp hboth.symm
  refine ⟨line', hk', ?_⟩
  have hafter : line'.link = c'.link := congrArg Course.link hline'
  have hbefore : c.link = line.link := congrArg Course.link hc
  rw [hafter, hbecomes.claim, hbefore]

/-- A line that gets a channel is the last, with the claim that was handed
out. -/
theorem connect_of_some {claim : Claim} (hclaim : s.pool.claim.2 = some claim)
    (desk : Desk) (name : String) (policy : Policy) (port : Port) :
    (s.connect desk name policy port).2 = .ok s.lines.length ∧
      ∃ line, (s.connect desk name policy port).1.lines[s.lines.length]? =
        some line ∧
        line.link.claim = claim := by
  have hboth :
      s.downlink.pool.claim = (s.downlink.pool.claim.1, some claim) := by
    rw [← hclaim]
    rfl
  let link :=
    Link.connect name claim port.transport policy s.config.link s.clock
  unfold connect
  rw [hboth]
  exact ⟨by simp, { link, port, desk }, by simp [link], rfl⟩

/-- A line that gets no channel leaves no trace but in the count of its desk. -/
theorem connect_of_none (hnone : s.pool.claim.2 = none) (desk : Desk)
    (name : String) (policy : Policy) (port : Port) :
    s.connect desk name policy port =
      (s.countAt desk fun c => { c with refused := c.refused + 1 },
        .error (.poolExhausted s.pool.capacity)) := by
  have hboth : s.downlink.pool.claim = (s.downlink.pool.claim.1, none) := by
    rw [← hnone]
    rfl
  unfold connect
  rw [hboth]

/-- What a lobby's books say of its traffic, they say of the station. -/
theorem accounted_of_mirrors (hl : s.Mirrors l)
    (h : l.traffic.Tenanted channels) (hcalls : l.started + l.refused = calls) :
    s.Accounted channels calls := by
  have hpool : l.traffic.downlink.pool = s.pool :=
    congrArg Downlink.pool hl.downlink
  have hlive := hl.live
  have hroom := h.exists_claim_iff
  rw [hpool, ← hlive] at hroom
  have hoccupied : s.pool.occupiedCount = s.live := by
    rw [← hpool, hlive, h.occupied]
  refine ⟨hoccupied, ?_, ?_, ?_, ?_, ?_⟩
  · rw [← h.capacity, hpool]
    exact s.pool.occupiedCount_le
  · rw [← hcalls, hl.started, hl.refused]
    rfl
  · intro name policy port hless
    obtain ⟨claim, hclaim⟩ := hroom.mpr hless
    obtain ⟨hanswer, line, hline, hsame⟩ :=
      connect_of_some hclaim .front name policy port
    obtain ⟨_, _, _, hconnected⟩ :=
      (s.follows_connect_front name policy port).visits l hl
    unfold spawn
    rcases hconnect : s.connect .front name policy port with ⟨s₁, error | k⟩
    · rw [hconnect] at hanswer
      cases hanswer
    · rw [hconnect] at hanswer hline hconnected
      obtain rfl := Except.ok.inj hanswer
      obtain ⟨line', hline', hclaim'⟩ :=
        (s₁.follows_start s.lines.length).claim hconnected hline
      refine ⟨rfl, line', hline', ?_⟩
      rw [hclaim', hsame, ← hpool]
      rw [← hpool] at hclaim
      exact h.sound.pool.takes hclaim
  · intro name policy port hfull
    have hnone : s.pool.claim.2 = none := by
      rw [Option.eq_none_iff_forall_ne_some]
      intro claim hclaim
      have hless := hroom.mp ⟨claim, hclaim⟩
      omega
    unfold spawn
    rw [connect_of_none hnone, ← hpool, h.capacity]
    rfl
  · intro hnone
    have hclear := h.clear (hlive.symm.trans hnone)
    rw [hpool, hl.active] at hclear
    exact hclear

end Station

/-- **The books of a station are in order** in every state that it can reach
while only links take channels and give them back, and so are those of its front
desk when links are dropped wherever they wait. -/
theorem spawns_accounted {config : Config} {handler : Handler} {s : Station}
    (h : Station.create config handler = .ok s) :
    (∀ commands : List Station.Command,
        (∀ command ∈ commands, command.isTransfer = false) →
        (s.after commands).Accounted config.channels
          ((commands.map (·.spawns config)).sum)) ∧
      ∀ {ε : Type} [Endpoint ε] (visits : List (Visit ε)),
        (∀ v ∈ visits, v.isTransfer = false) →
        ((Lobby.start s.downlink).run visits).Accounted config.channels
          (visits.countP Visit.isSpawn) := by
  obtain ⟨_, _, hcreate⟩ := Station.mirrors_create h
  have hlobby : ∀ {ε : Type} [Endpoint ε] (visits : List (Visit ε)),
      visits.countP Visit.isTransfer = 0 →
      ((Lobby.start s.downlink).run visits).traffic.Tenanted config.channels ∧
        ((Lobby.start s.downlink).run visits).started +
          ((Lobby.start s.downlink).run visits).refused =
            visits.countP Visit.isSpawn := by
    intro ε _ visits hvisits
    refine ⟨?_, ?_⟩
    · rw [Lobby.traffic_run]
      refine (Traffic.tenanted_start hcreate).run ?_
      intro a ha
      obtain ⟨v, hv, rfl⟩ := List.mem_map.mp ha
      simpa [Visit.isTransfer] using List.countP_eq_zero.mp hvisits v hv
    · rw [Lobby.calls_run]
      exact Nat.zero_add _
  refine ⟨?_, ?_⟩
  · intro commands hcommands
    have hnone : commands.countP Station.Command.isTransfer = 0 := by
      rw [List.countP_eq_zero]
      intro command hcommand
      simp [hcommands command hcommand]
    obtain ⟨visits, hspawns, htransfers, hmirror⟩ :=
      Station.after_mirrored h commands
    obtain ⟨htenanted, hcalls⟩ := hlobby visits (htransfers.trans hnone)
    rw [← hspawns]
    exact Station.accounted_of_mirrors hmirror htenanted hcalls
  · intro ε _ visits hvisits
    have hnone : visits.countP Visit.isTransfer = 0 := by
      rw [List.countP_eq_zero]
      intro v hv
      simp [hvisits v hv]
    obtain ⟨htenanted, hcalls⟩ := hlobby visits hnone
    exact Lobby.accounted_of_tenanted htenanted hcalls

section

open Station

/-- A station of one channel. -/
def hut : Station where
  config :=
    { channels := 1, queueCapacity := 4, tcp := none, telemetry := none }
  handler := .accepting
  downlink := .single 4

/-- Two want the one channel. -/
def hutCalls : List Command :=
  [.spawn "first" .tcp .tcp, .spawn "second" .tcp .tcp]

/-- One is dropped while its handler is told that it begins. -/
def hutVisits : List (Visit Pipe) :=
  [.spawn "first" .tcp {} 0 {}, .act (.resume 0 { now := 0 }), .act (.drop 0)]

theorem hut_accounted :
    Station.create hut.config hut.handler = .ok hut ∧
      (hut.after hutCalls).stats.occupied = 1 ∧
      (hut.after hutCalls).stats.started + (hut.after hutCalls).stats.refused =
        2 ∧
      ((hut.after hutCalls).spawn .front "third" .udp {}).2 =
        .error (.poolExhausted 1) ∧
      (hut.after (hutCalls ++ [.drop 0])).pool.Cleared ∧
      ((hut.after (hutCalls ++ [.drop 0])).spawn .front "third" .udp {}).2 =
        .ok 1 ∧
      ((Lobby.start hut.downlink).run hutVisits).traffic.downlink.pool.Cleared ∧
      ((Lobby.start hut.downlink).run hutVisits).started +
        ((Lobby.start hut.downlink).run hutVisits).refused = 1 := by
  have hcreate : Station.create hut.config hut.handler = .ok hut := rfl
  have hfull : (hut.after hutCalls).live = 1 := by decide +kernel
  have hempty : (hut.after (hutCalls ++ [.drop 0])).live = 0 := by
    decide +kernel
  have hgone : ((Lobby.start hut.downlink).run hutVisits).traffic.live = 0 := by
    decide +kernel
  obtain ⟨hstation, hlobby⟩ := spawns_accounted hcreate
  have hcalls := hstation hutCalls (by simp [hutCalls, Command.isTransfer])
  have hdropped :=
    hstation (hutCalls ++ [.drop 0]) (by simp [hutCalls, Command.isTransfer])
  have hvisits :=
    hlobby hutVisits (by simp [hutVisits, Visit.isTransfer, Visit.toAct,
    Act.isTransfer])
  refine ⟨hcreate, hcalls.occupied.trans hfull, hcalls.counted, ?_,
    (hdropped.cleared hempty).1, ?_, (hvisits.cleared hgone).1, hvisits.counted⟩
  · have hrefused := hcalls.refuses "third" .udp {} (Nat.le_of_eq hfull.symm)
    exact congrArg Prod.snd hrefused
  · have hroom : (hut.after (hutCalls ++ [.drop 0])).live < 1 := by omega
    obtain ⟨hanswer, _⟩ := hdropped.admits "third" .udp {} hroom
    have hlines : (hut.after (hutCalls ++ [.drop 0])).lines.length = 1 := by
      decide +kernel
    rw [hanswer, hlines]

end

end GroundLink
