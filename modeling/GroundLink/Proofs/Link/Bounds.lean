import GroundLink.Link.Bounds
import GroundLink.Proofs.Channel.Bounds
import GroundLink.Proofs.Channel.Waiting
import GroundLink.Proofs.Link.Possession

/-!
# Links keep within bounds

Every checked operation of a link over a pipe succeeds and does what the
operation does, as long as the pool is sound and polls have a period.  The pool
is all that a link depends on: its own buffers are in order whatever has
happened to it, since a read never gives more than was asked for, a write never
takes more than was offered, and a frame that is read has begun.

* `resume?_eq` — a stretch of work;
* `act?_eq` — whatever happens among links;
* `Traffic.Ready` — what is asked of them, which whatever happens keeps.
-/

namespace GroundLink

open Checked

/-! ## The pipe -/

namespace Parcels

/-- What has been opened is at least as long as what is copied, and so is
the buffer. -/
theorem read?_eq (p : Parcels) (n : Nat) : p.read? n = some (p.read n) := by
  unfold read? Parcels.read readOpened? readOpened
  split
  · rfl
  · have hbuffer : min (p.openUp n).opened.length n ≤ n := Nat.min_le_right _ _
    have hopened : min (p.openUp n).opened.length n ≤
        (p.openUp n).opened.length :=
      Nat.min_le_left _ _
    simp [fits?_eq hbuffer, fits?_eq hopened]

/-- A write never takes more than it was given. -/
theorem write?_eq (p : Parcels) (bytes : Bytes) :
    p.write? bytes = some (p.write bytes) := by
  have hle := p.asPipe.accepts_le bytes.length
  unfold write? Parcels.write
  split
  · rfl
  · dsimp only
    split
    · rfl
    · rw [fits?_eq hle]
      cases p.peerGone <;> rfl

/-- A read never gives more than was asked for. -/
theorem length_read_le {p p' : Parcels} {n : Nat} {bytes : Bytes}
    (h : p.read n = (p', .ok bytes)) : bytes.length ≤ n := by
  unfold Parcels.read readOpened at h
  split at h
  · split at h
    · cases h
    · cases h
      exact Nat.zero_le n
  · cases h
    rw [List.length_take]
    exact Nat.le_trans (Nat.min_le_left _ _) (Nat.min_le_right _ _)

/-- A write never takes more than was offered. -/
theorem write_le {p p' : Parcels} {bytes : Bytes} {n : Nat}
    (h : p.write bytes = (p', .ok n)) : n ≤ bytes.length := by
  have hle := p.asPipe.accepts_le bytes.length
  unfold Parcels.write at h
  split at h
  · cases h
  · dsimp only at h
    split at h
    · cases h
      exact Nat.zero_le _
    · split at h
      · cases h
      · cases h
        exact hle

end Parcels

/-! ## The decoder -/

namespace Decoder

/-- A frame that has begun has a version. -/
theorem version?_eq {buffer : Bytes} (h : buffer ≠ []) :
    version? buffer = some (leadingVersion buffer) := by
  cases buffer with
  | nil => exact absurd rfl h
  | cons start rest => rfl

/-- The length is looked for only where there is a second byte, and then the
first byte is there as well. -/
theorem announced?_eq (buffer : Bytes) :
    announced? buffer = some (announcedLength buffer) := by
  match buffer with
  | [] => rfl
  | [_] => rfl
  | start :: length :: rest =>
      have hversion : version? (start :: length :: rest) =
          some (leadingVersion (start :: length :: rest)) :=
        version?_eq (List.cons_ne_nil _ _)
      unfold announced? announcedLength
      rw [hversion]
      by_cases hstart : start = Version.v1.startByte
      · simp [leadingVersion, hstart]
      · cases rest <;> simp [leadingVersion, hstart]

/-- A frame is complete only with its first byte there to tell its version. -/
theorem finish?_eq {d : Decoder} (h : d.buffer ≠ []) :
    d.finish? = some d.finish := by
  unfold finish? Decoder.finish
  rw [version?_eq h]
  dsimp only [Option.bind_eq_bind, Option.bind_some]
  cases Frame.find? (leadingVersion d.buffer) d.buffer <;> rfl

/-- A decoder that reads a frame has collected at least the byte that it takes
now. -/
theorem push?_eq (d : Decoder) (b : UInt8) : d.push? b = some (d.push b) := by
  have hbegun : d.buffer ++ [b] ≠ [] :=
    List.append_ne_nil_of_right_ne_nil _ (List.cons_ne_nil _ _)
  have hfinish := finish?_eq (d := { d with buffer := d.buffer ++ [b] }) hbegun
  have hannounced := announced?_eq (d.buffer ++ [b])
  unfold push?
  split
  · rfl
  · next hgoes =>
      unfold Decoder.push isComplete
      rw [if_neg hgoes]
      dsimp only
      rw [hannounced, hfinish]
      dsimp only [Option.bind_eq_bind, Option.bind_some]
      split <;> rfl

end Decoder

/-! ## Stretches of work -/

namespace Turn

variable {t : Turn Parcels}

/-- A drain hands out no more than a chunk, so that it fits into the buffer
for one. -/
theorem refill?_eq (h : t.board.pool.Sound) (chunk : Nat) :
    t.refill? chunk = some (t.refill chunk) := by
  have hdrain := h.drain? t.link.channel chunk
  have hle := t.board.pool.length_drain_le t.link.channel chunk
  unfold refill? Turn.refill
  split
  · simp [hdrain, fits?_eq hle]
  · rfl

/-- A refill leaves the channels sound for the next attempt. -/
theorem sound_refill (h : t.board.pool.Sound) (chunk : Nat) :
    (t.refill chunk).board.pool.Sound := by
  unfold Turn.refill
  split
  · exact h.drain _ _
  · exact h

/-- No more is cut off the chunk than it holds. -/
theorem wrote?_eq {n : Nat} (h : n ≤ t.link.pending.length) :
    t.wrote? n = some (t.wrote n) := by
  simp [wrote?, fits?_eq h]

/-- Each attempt writes from the chunk, and an endpoint never takes more
than that. -/
theorem drainWithin?_eq (h : t.board.pool.Sound) (chunk attempts : Nat) :
    drainWithin? chunk attempts t = some (drainWithin chunk attempts t) := by
  induction attempts generalizing t with
  | zero => rfl
  | succ attempts ih =>
      have hsound := sound_refill h chunk
      unfold drainWithin? drainWithin
      rw [refill?_eq h chunk]
      dsimp only [Option.bind_eq_bind, Option.bind_some]
      split
      · rfl
      · rw [Parcels.write?_eq]
        rcases hanswer :
            (t.refill chunk).endpoint.write (t.refill chunk).link.pending with
          ⟨endpoint, fault | n⟩
        · have hanswer' : Endpoint.write (t.refill chunk).endpoint
              (t.refill chunk).link.pending =
              (endpoint, .error fault) := hanswer
          rw [hanswer']
          rfl
        · have hanswer' : Endpoint.write (t.refill chunk).endpoint
              (t.refill chunk).link.pending =
              (endpoint, .ok n) := hanswer
          rw [hanswer']
          cases n with
          | zero => rfl
          | succ n =>
              have hwrote := wrote?_eq (t := { t.refill chunk with endpoint })
                (Parcels.write_le hanswer)
              dsimp only [Option.bind_some]
              rw [hwrote]
              exact ih hsound

/-- A drain is a bounded number of such attempts. -/
theorem drain?_eq (h : t.board.pool.Sound) (chunk : Nat) :
    t.drain? chunk = some (t.drain chunk) :=
  drainWithin?_eq h chunk _

/-- An endpoint never answers with more bytes than the buffer holds. -/
theorem read?_eq (size : Nat) (t : Turn Parcels) :
    t.read? size = some (t.read size) := by
  unfold Turn.read? Turn.read
  rw [Parcels.read?_eq]
  rcases hanswer : t.endpoint.read size with ⟨endpoint, fault | bytes⟩
  · have hanswer' : Endpoint.read t.endpoint size = (endpoint, .error fault) :=
      hanswer
    rw [hanswer']
    rfl
  · have hanswer' : Endpoint.read t.endpoint size = (endpoint, .ok bytes) :=
      hanswer
    rw [hanswer']
    simp [fits?_eq (Parcels.length_read_le hanswer)]

/-- A decoder takes every byte without a fault, whatever it has in its
buffer. -/
theorem decode?_eq (b : UInt8) (t : Turn Parcels) :
    t.decode? b = some (t.decode b) := by
  unfold decode? decode
  rw [Decoder.push?_eq]
  rfl

/-- A link gives its channel back within bounds, once at most. -/
theorem release?_eq (h : t.board.pool.Sound) : t.release? = some t.release := by
  have hfree := h.free? t.link.claim.index (some t.link.claim.generation)
  unfold release? release
  split
  · rfl
  · dsimp only
    split
    · simp [note, hfree, Pool.releaseClaim]
    · simp [hfree, Pool.releaseClaim]

/-- Apart from the release there is nothing to check when a link leaves. -/
theorem leave?_eq (h : t.board.pool.Sound) (exit : Exit) (cue : Cue) :
    t.leave? exit cue = some (t.leave exit cue) := by
  have hpast : t.release.link.state = .terminated := by simp
  have hleave : t.release.leave exit cue = t.leave exit cue := by
    unfold Turn.leave finish
    rw [release_of_past hpast]
  unfold leave?
  rw [release?_eq h]
  exact congrArg some hleave

/-- The pool stays sound while a link moves. -/
theorem Moves.sound {ε : Type} [Endpoint ε] {chunk : Nat} {t t' : Turn ε}
    (h : Moves chunk t t') (hsound : t.board.pool.Sound) :
    t'.board.pool.Sound :=
  h.keep (P := fun t => t.board.pool.Sound)
    (fun hmove => hmove.since.sound) hsound

/-- A tick that ends its link does so by `leave`. -/
theorem endTick?_eq (h : t.board.pool.Sound) (now : Nat) (cue : Cue) :
    t.endTick? now cue = some (t.endTick now cue) := by
  have hcount : (t.count fun s =>
      { s with
        parseErrors := t.link.decoder.stats.parseErrors }).board.pool.Sound := h
  unfold endTick? endTick
  dsimp only
  generalize (t.count fun s =>
      { s with parseErrors := t.link.decoder.stats.parseErrors }) = t₀
    at hcount ⊢
  have hsound := (moves_checkDeadline 0 now t₀).sound hcount
  rcases hcheck : checkDeadline now t₀ with ⟨t₁, exit⟩
  rw [hcheck] at hsound
  cases (t₀.link.tracker.poll now).2 with
  | deactivated => rfl
  | _ =>
      cases exit with
      | none => rfl
      | some exit => exact leave?_eq hsound exit cue

/-- The bytes go to the decoder one by one. -/
theorem takeIn?_eq (h : t.board.pool.Sound) (now : Nat) (cue : Cue)
    (bytes : Bytes) :
    t.takeIn? now cue bytes = some (t.takeIn now cue bytes) := by
  induction bytes generalizing t with
  | nil => exact endTick?_eq h now cue
  | cons b rest ih =>
      have hsound := (moves_decode 0 b t).sound h
      unfold takeIn? takeIn
      rw [decode?_eq]
      rcases hdecode : t.decode b with ⟨t₁, _ | f⟩
      · rw [hdecode] at hsound
        exact ih hsound
      · rfl

/-- The first stretch of a tick drains, reads and takes in, each of them
within bounds. -/
theorem startTick?_eq (h : t.board.pool.Sound) (config : LinkConfig)
    (cue : Cue) :
    t.startTick? config cue = some (t.startTick config cue) := by
  unfold startTick? startTick
  split
  · exact leave?_eq h .evicted cue
  · next hheld =>
      have hsound :=
        (moves_drain config.writeChunk t (by simpa using hheld)).sound h
      rw [drain?_eq h]
      rcases hdrain : t.drain config.writeChunk with ⟨t₁, _ | exit⟩
      · rw [hdrain] at hsound
        have hsound' :=
          (moves_read config.writeChunk config.readBuffer t₁).sound hsound
        dsimp only [Option.bind_eq_bind, Option.bind_some]
        rw [read?_eq]
        rcases hread : t₁.read config.readBuffer with ⟨t₂, exit | bytes⟩
        · rw [hread] at hsound'
          exact leave?_eq hsound' exit cue
        · rw [hread] at hsound'
          exact takeIn?_eq hsound' cue.now cue bytes
      · rw [hdrain] at hsound
        exact leave?_eq hsound exit cue

/-- What was read with a frame is taken in within bounds. -/
theorem weigh?_eq (h : t.board.pool.Sound) (now : Nat) (f : Frame)
    (rest : Bytes) (cue : Cue) :
    t.weigh? now f rest cue = some (t.weigh now f rest cue) := by
  have hjudge := (moves_judge 0 f cue.verdict t).sound h
  have hbeat := (moves_beat 0 now (t.judge f cue.verdict)).sound hjudge
  unfold weigh? weigh
  dsimp only
  split
  · split
    · exact takeIn?_eq hbeat now cue rest
    · rfl
  · exact takeIn?_eq hjudge now cue rest

/-- **A stretch of work** keeps within bounds. -/
theorem resume?_eq (h : t.board.pool.Sound) {config : LinkConfig}
    (hpoll : 0 < config.pollInterval) (cue : Cue) (stand : Stand) :
    t.resume? config cue stand = some (t.resume config cue stand) := by
  cases stand with
  | beginning => simp [resume?, resume, positive?_eq hpoll]
  | waiting => exact startTick?_eq h config cue
  | judging now f rest => exact weigh?_eq h now f rest cue
  | greeting now rest => exact takeIn?_eq h now cue rest
  | parting exit =>
      cases exit with
      | none => rfl
      | some exit => exact leave?_eq h exit cue
  | _ => rfl

end Turn

/-! ## Many links -/

namespace Traffic

variable {w : Traffic Parcels}

/-- **What is asked of links**: the pool is sound, and each polls with a
period. -/
structure Ready (w : Traffic Parcels) : Prop where
  pool : w.downlink.pool.Sound
  polls : ∀ c ∈ w.courses, 0 < c.config.pollInterval

/-- A link is connected by one claim on sound channels. -/
theorem connect?_eq (h : w.downlink.pool.Sound) (name : String)
    (policy : Policy) (config : LinkConfig) (now : Nat) (endpoint : Parcels) :
    w.connect? name policy config now endpoint =
      some (w.connect name policy config now endpoint) := by
  unfold connect? connect
  rw [h.claim?]
  rcases w.downlink.pool.claim with ⟨pool, _ | claim⟩ <;> rfl

/-- **Whatever happens among links** keeps within bounds. -/
theorem Ready.act? (h : w.Ready) (a : Act Parcels) :
    w.act? a = some (w.act a) := by
  cases a with
  | connect name policy config now endpoint =>
      exact connect?_eq h.pool name policy config now endpoint
  | resume k cue =>
      cases hk : w.courses[k]? with
      | none => simp [Traffic.act?, Traffic.act, hk]
      | some c =>
          have hresume := Turn.resume?_eq (t := c.turn w.board) h.pool
            (h.polls c (List.mem_of_getElem? hk)) cue c.stand
          simp [Traffic.act?, Traffic.act, hk, hresume]
  | drop k =>
      cases hk : w.courses[k]? with
      | none => simp [Traffic.act?, Traffic.act, hk]
      | some c =>
          have hrelease := Turn.release?_eq (t := c.turn w.board) h.pool
          simp [Traffic.act?, Traffic.act, hk, hrelease]
  | far k f => rfl
  | ask op =>
      have hperform := Downlink.perform?_eq h.pool op
      simp [Traffic.act?, Traffic.act, hperform]

/-- What happens leaves links ready, if those that come in poll with a period
too. -/
theorem Ready.act (h : w.Ready) {a : Act Parcels}
    (hperiod : ∀ name policy config now endpoint,
      a = .connect name policy config now endpoint → 0 < config.pollInterval) :
    (w.act a).Ready := by
  rcases w.act_cases a with ⟨_, hsame⟩ | ⟨k, c, t, stand, hk, hwork, heq⟩ |
    ⟨name, policy, config, now, endpoint, pool, claim, ha, hclaim,
      heq⟩ | ⟨op, _, heq⟩
  · rw [hsame]
    exact h
  · refine ⟨?_, ?_⟩
    · rw [heq]
      exact (work_since hwork).sound h.pool
    · intro c' hc'
      rw [heq] at hc'
      rcases List.mem_or_eq_of_mem_set hc' with hc' | rfl
      · exact h.polls c' hc'
      · exact h.polls c (List.mem_of_getElem? hk)
  · refine ⟨?_, ?_⟩
    · rw [heq]
      have hsound := h.pool.claim
      rw [hclaim] at hsound
      exact hsound
    · intro c' hc'
      rw [heq] at hc'
      rcases List.mem_append.mp hc' with hc' | hc'
      · exact h.polls c' hc'
      · obtain rfl := List.mem_singleton.mp hc'
        exact hperiod name policy config now endpoint ha
  · rw [heq]
    exact ⟨Downlink.sound_perform h.pool op, h.polls⟩

end Traffic

end GroundLink
