import GroundLink.Proofs.Link.Bounds
import GroundLink.Proofs.Station.Mirror
import GroundLink.Station.Bounds

/-!
# A good configuration keeps a station within bounds

A configuration without fault gives channels whose queues can be built and
periods that are not zero.  Everything else follows from how a station goes on:
its pool is sound from the beginning, whatever happens keeps it so
(`ready_step`), and over a sound pool nothing that is done goes out of bounds
(`step?_eq`).
-/

namespace GroundLink

open Checked

/-- Telemetry that is not refused has a period. -/
theorem Config.Valid.telemetry_pos {c : Config} (h : c.Valid)
    {t : TelemetryConfig} (ht : c.telemetry = some t) : 0 < t.interval := by
  unfold Valid fault? at h
  rw [ht] at h
  repeat' split at h
  all_goals first | contradiction | skip
  next hinterval => simpa [Nat.pos_iff_ne_zero] using hinterval

/-- A configuration without a fault is valid. -/
theorem Config.valid_of_error_none {c : Config} (h : c.error? = none) :
    c.Valid := by
  rwa [error?, Option.map_eq_none_iff] at h

namespace Station

/-- A configuration with a fault is refused with the error of that fault. -/
theorem create_of_error {config : Config} {error : Error}
    (h : config.error? = some error) (handler : Handler) :
    Station.create config handler = .error error := by
  unfold Station.create
  split
  · next fault hfault =>
      rw [Config.error?, hfault] at h
      cases h
      rfl
  · next hfault =>
      rw [Config.error?, hfault] at h
      cases h

/-- A configuration without fault gives a station. -/
theorem create_of_valid {config : Config} (h : config.Valid)
    (handler : Handler) :
    ∃ pool, Pool.create? config.channels config.queueCapacity = some pool ∧
      Station.create config handler = .ok {
        config, handler
        downlink :=
  ⟨pool, { system := config.system, component := config.component }⟩ } := by
  have hbuilt := Pool.isSome_create? config.channels h.bounds.2.1
  refine ⟨_, (Option.some_get hbuilt).symm, ?_⟩
  unfold Station.create
  split
  · next fault hfault => exact absurd (h.symm.trans hfault) nofun
  · rfl

/-- A queue is built only where there is no fault in its size. -/
theorem create?_eq (config : Config) (handler : Handler) :
    Station.create? config handler = some (Station.create config handler) := by
  unfold Station.create?
  cases herror : config.error? with
  | some error => rw [create_of_error herror]
  | none =>
      obtain ⟨pool, hpool, hcreate⟩ :=
        create_of_valid (Config.valid_of_error_none herror) handler
      rw [hpool, hcreate]
      rfl

end Station

namespace Site

variable {config : Config} {s : Site}

/-- A new site is ready as soon as its pool is sound. -/
theorem ready_start {d : Downlink} (h : d.pool.Sound) :
    (Site.start d).watch.traffic.Ready :=
  ⟨h, List.forall_mem_nil _⟩

/-- **One thing** that happens at a station keeps within bounds. -/
theorem step?_eq (hconfig : config.Valid) (h : s.watch.traffic.Ready)
    (e : Errand) :
    s.step? config e = some (s.step config e) := by
  cases e with
  | deal dealing =>
      have hact := h.act? (dealing.act config.link)
      simp [step?, step, hact]
  | inspect channel =>
      have hinspect := Pool.Sound.inspect? (p := s.downlink.pool) h.pool channel
      simp [step?, step, hinspect]
  | telemetry =>
      cases ht : config.telemetry with
      | none => simp [step?, step, ht]
      | some t =>
          have hpos := hconfig.telemetry_pos ht
          simp [step?, step, ht, positive?_eq hpos]
  | round k =>
      cases hk : s.beacons[k]? with
      | none => simp [step?, step, hk]
      | some b =>
          have hround := Beacon.round?_eq (d := s.downlink) h.pool b
          simp [step?, step, hk, hround]
  | _ => rfl

/-- The links of a station poll with the period of its configuration. -/
theorem ready_step (hconfig : config.Valid) (h : s.watch.traffic.Ready)
    (e : Errand) :
    (s.step config e).watch.traffic.Ready := by
  obtain ⟨_, _, hpoll, _, _⟩ := hconfig.bounds
  cases e with
  | deal dealing =>
      refine h.act ?_
      intro name policy config' now endpoint hconnect
      cases dealing with
      | connect =>
          cases hconnect
          exact hpoll
      | _ => cases hconnect
  | round k =>
      cases hk : s.beacons[k]? with
      | none => simpa [Site.step, hk] using h
      | some b =>
          have hstep : Site.step config s (.round k) =
              s.withDownlink (b.round s.downlink).1 := by
            simp [Site.step, hk]
          rw [hstep]
          exact ⟨Beacon.sound_round h.pool b, h.polls⟩
  | check k armed =>
      have hsame : (s.watch.step (.check k armed)).1.traffic =
          s.watch.traffic := by
        cases hf : s.watch.failsafes[k]? with
        | none => rw [Watch.step_check_of_none hf]
        | some f => rw [Watch.step_check hf]
      change (s.watch.step (.check k armed)).1.traffic.Ready
      rw [hsame]
      exact h
  | telemetry =>
      cases ht : config.telemetry <;> simpa [Site.step, ht] using h
  | _ => exact h

/-- **Any run** of a station keeps within bounds. -/
theorem run?_eq (hconfig : config.Valid) (h : s.watch.traffic.Ready)
    (errands : List Errand) :
    s.run? config errands = some (s.run config errands) := by
  induction errands generalizing s with
  | nil => rfl
  | cons e errands ih =>
      rw [run?_cons, step?_eq hconfig h e]
      exact ih (ready_step hconfig h e)

/-- A link that has no period for its polls stops short as soon as it has
begun. -/
example :
    let d : Downlink :=
      ⟨⟨[false], [{ queue := ⟨#[0, 0], 0, 0⟩ }]⟩,
        { system := 1, component := 1 }⟩
    let resume := Errand.deal (.resume 0 ⟨0, .ok (), none⟩)
    ((Site.start d).run? { link := { pollInterval := 0 } }
      [.deal (.connect "near" {} 0 []), resume, resume]).isNone := by
    decide +kernel

/-- A site stays ready over every run of errands. -/
theorem ready_run (hconfig : config.Valid) (h : s.watch.traffic.Ready)
    (errands : List Errand) :
    (s.run config errands).watch.traffic.Ready := by
  induction errands generalizing s with
  | nil => exact h
  | cons e errands ih => exact ih (ready_step hconfig h e)

end Site

/-- **Nothing goes out of bounds.**

* Whether a configuration is good or not, no queue is asked for that cannot be
  built.
* One with a fault gives nothing but the error of that fault.
* One without gives a station.  Whatever happens there over pipes, every step
  that is checked succeeds, and at any time every queue can say how many bytes
  wait and how many still fit.
* That station may also be run under its clock: at any time every request to its
  downlink succeeds. -/
theorem nothing_out_of_bounds (config : Config) (handler : Handler) :
    Station.create? config handler = some (Station.create config handler) ∧
      (∀ error, config.error? = some error →
        Station.create config handler = .error error) ∧
      (config.error? = none → ∃ s, Station.create config handler = .ok s ∧
        (∀ errands, (Site.start s.downlink).run? config errands =
            some ((Site.start s.downlink).run config errands) ∧
          ∀ slot ∈
            ((Site.start s.downlink).run config errands).downlink.pool.slots,
            slot.queue.length? = some slot.queue.length ∧
              slot.queue.free? = some slot.queue.free) ∧
        ∀ commands op, (s.after commands).downlink.perform? op =
          some ((s.after commands).downlink.perform op)) := by
  refine ⟨Station.create?_eq config handler, ?_, ?_⟩
  · intro error herror
    exact Station.create_of_error herror handler
  · intro herror
    have hvalid : config.Valid := Config.valid_of_error_none herror
    obtain ⟨pool, _, hcreate⟩ := Station.create_of_valid hvalid handler
    obtain ⟨s, hs⟩ : ∃ s, Station.create config handler = .ok s := ⟨_, hcreate⟩
    obtain ⟨_, _, hpool⟩ := Station.mirrors_create hs
    refine ⟨s, hs, ?_, ?_⟩
    · intro errands
      have hstart := Site.ready_start (Pool.Sound.create? hpool)
      refine ⟨Site.run?_eq hvalid hstart errands, ?_⟩
      intro slot hslot
      have hqueue :=
        ((Site.ready_run hvalid hstart errands).pool.slots slot hslot).queue
      exact ⟨hqueue.length?, hqueue.free?⟩
    · intro commands op
      exact Downlink.perform?_eq (Station.sound_after hs commands) op

/-- As little of everything as there may be. -/
def scant : Config where
  channels := 1
  queueCapacity := 2
  link := { pollInterval := 1, heartbeatTimeout := 1,
            writeChunk := 1, readBuffer := 1 }
  telemetry := some { interval := 1 }

/-- The only channel has room for one byte. -/
def scantDownlink : Downlink :=
  ⟨⟨[false], [{ queue := ⟨#[0, 0], 0, 0⟩ }]⟩, { system := 1, component := 1 }⟩

/-- Telemetry sends a round, of which a link writes the first byte; then the
link loses its channel, and ends. -/
def scantErrands : List Errand :=
  let connect :=
    Dealing.connect "near" { waitForHeartbeat := false } 0 [.send [0xFE, 9]]
  let resume := Errand.deal (.resume 0 ⟨0, .ok (), none⟩)
  [.telemetry, .install, .deal connect, resume, resume, .round 0,
    .inspect 0, resume, .deal (.ask (.release 7)), .deal (.ask (.release 0)),
    .check 0 true, .check 3 true, resume, resume, .deal (.drop 0),
    .deal (.ask (.drain 9 5))]

theorem scant_in_bounds :
    scant.error? = none ∧
      (Site.start scantDownlink).run? scant scantErrands =
        some ((Site.start scantDownlink).run scant scantErrands) ∧
      ((Site.start scantDownlink).run scant
          scantErrands).watch.traffic.courses.map (·.endpoint.outbound) =
        [[[0xFD]]] ∧
      { scant with channels := 0 }.error? = some ConfigFault.noChannel.error ∧
      Station.create { scant with channels := 0 } .heartbeatsOnly =
        .error ConfigFault.noChannel.error := by
  have hgood : scant.error? = none := by decide
  have hbad : { scant with channels := 0 }.error? =
      some ConfigFault.noChannel.error := by decide
  obtain ⟨_, _, hstation⟩ := nothing_out_of_bounds scant .heartbeatsOnly
  obtain ⟨_, herror, _⟩ :=
    nothing_out_of_bounds { scant with channels := 0 } .heartbeatsOnly
  obtain ⟨s, hs, hruns, _⟩ := hstation hgood
  have hdownlink : s.downlink = scantDownlink := by
    cases hs
    rfl
  obtain ⟨hrun, _⟩ := hruns scantErrands
  rw [hdownlink] at hrun
  exact ⟨hgood, hrun, by decide +kernel, hbad, herror _ hbad⟩

end GroundLink
