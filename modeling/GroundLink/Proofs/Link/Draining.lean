import GroundLink.Proofs.Channel.Conservation
import GroundLink.Proofs.Link.Presence
import GroundLink.Proofs.Link.WritePath

/-!
# Writing until nothing more can be written

A link writes in a loop: it takes a chunk from its channel when it has none,
offers it to the endpoint, and goes on with what the endpoint did not take.
`Turn.Drains` is that loop, with nothing that bounds it, and with the attempts
that it makes.

The loop ends.  It spans two places, the chunk at hand and the queue of the
channel, but to take a chunk only moves bytes from one to the other
(`unsent_refill`), and every attempt that does not end the loop takes a byte
away (`unsent_wrote`).  So it ends after no more attempts than there are bytes
(`Drains.length_le`), and `Turn.drain`, which stops after as many, is the loop
(`drains_drain`).  How it ends is a matter of the last answer (`Finish.of`).
-/

namespace GroundLink

/-- What one attempt to write offered, and what was answered. -/
abbrev Attempt := Bytes × Except Fault Nat

/-- Whether at least one byte was taken. -/
def Attempt.TakesSome (a : Attempt) : Prop := ∃ n, a.2 = .ok n ∧ 0 < n

namespace Turn

variable {ε : Type}

/-- What is on its way out: the chunk at hand, then what waits on the
channel. -/
def unsent (t : Turn ε) : Bytes :=
  t.link.pending ++ t.board.pool.waiting t.link.channel

/-- The bytes that are unsent are those that are counted for a drain. -/
theorem length_unsent (t : Turn ε) : t.unsent.length = t.unwritten := by
  rw [unsent, unwritten, List.length_append, Pool.queued_eq]

/-- **The loop**, from a link as it is, with the attempts that it makes, to what
is left and whether the link is to end. -/
inductive Drains [Endpoint ε] (chunk : Nat) :
    Turn ε → List Attempt → Turn ε × Option Exit → Prop
  /-- There is nothing to write. -/
  | dry {t : Turn ε} (gone : (t.refill chunk).link.pending = []) :
      Drains chunk t [] (t.refill chunk, none)
  /-- The endpoint takes nothing now. -/
  | full {t : Turn ε} {endpoint : ε}
      (there : (t.refill chunk).link.pending ≠ [])
      (answer :
        Endpoint.write (t.refill chunk).endpoint (t.refill chunk).link.pending =
        (endpoint, .ok 0)) :
      Drains chunk t [((t.refill chunk).link.pending, .ok 0)]
        ({ t.refill chunk with endpoint }, none)
  /-- It takes some, and the loop goes on. -/
  | more {t : Turn ε} {endpoint : ε} {n : Nat} {attempts : List Attempt}
      {result : Turn ε × Option Exit}
      (there : (t.refill chunk).link.pending ≠ [])
      (answer :
        Endpoint.write (t.refill chunk).endpoint (t.refill chunk).link.pending =
        (endpoint, .ok (n + 1)))
      (rest : Drains chunk (wrote (n + 1) { t.refill chunk with endpoint })
        attempts result) :
      Drains chunk t
        (((t.refill chunk).link.pending, .ok (n + 1)) :: attempts) result
  /-- The write fails. -/
  | fault {t : Turn ε} {endpoint : ε} {fault : Fault}
      (there : (t.refill chunk).link.pending ≠ [])
      (answer :
        Endpoint.write (t.refill chunk).endpoint (t.refill chunk).link.pending =
        (endpoint, .error fault)) :
      Drains chunk t [((t.refill chunk).link.pending, .error fault)]
        (writeFailed { t.refill chunk with endpoint })

end Turn

/-! ## How it ends -/

/-- How the loop can end. -/
inductive Finish
  | emptied
  | stalled
  | failed
deriving Repr, DecidableEq

namespace Finish

/-- The end that the last answer makes. -/
def of (attempts : List Attempt) : Finish :=
  match attempts.getLast? with
  | some (_, .ok 0) => stalled
  | some (_, .error _) => failed
  | _ => emptied

/-- **What each end means**, for a link as it was, the attempts, and what has
become of it.  In the first case every attempt took something and nothing is
left.  In the others that was so up to the last attempt, which took nothing or
failed; the chunk that it offered is at hand still, or it is given up if the
link goes on after a fault; and the queue holds all that was behind it. -/
def Reached {ε : Type} (t : Turn ε) (attempts : List Attempt)
    (result : Turn ε × Option Exit) :
    Finish → Prop
  | emptied => (∀ a ∈ attempts, Attempt.TakesSome a) ∧
      t.unsent = attempts.flatMap Recorded.taken ∧
      result.1.link.pending = [] ∧
      result.1.board.pool.waiting t.link.channel = [] ∧
      result.2 = none
  | stalled => ∃ earlier,
    attempts = earlier ++ [(result.1.link.pending, .ok 0)] ∧
      (∀ a ∈ earlier, Attempt.TakesSome a) ∧
      t.unsent = earlier.flatMap Recorded.taken ++
        (result.1.link.pending ++ result.1.board.pool.waiting t.link.channel) ∧
      result.1.link.pending ≠ [] ∧ result.2 = none
  | failed => ∃ earlier offered fault,
    attempts = earlier ++ [(offered, .error fault)] ∧
      (∀ a ∈ earlier, Attempt.TakesSome a) ∧
      t.unsent = earlier.flatMap Recorded.taken ++
        (offered ++ result.1.board.pool.waiting t.link.channel) ∧
      if t.link.policy.exitOnError then
        result.1.link.pending = offered ∧ result.2 = some .writeError
      else result.1.link.pending = [] ∧ result.2 = none

variable {ε : Type} {t : Turn ε} {attempts : List Attempt}
  {result : Turn ε × Option Exit}

/-- Nobody stops who is never refused. -/
theorem of_eq_emptied (h : ∀ a ∈ attempts, Attempt.TakesSome a) :
    of attempts = emptied := by
  unfold of
  split
  · next offered hlast =>
      obtain ⟨n, hn, hpos⟩ := h _ (List.mem_of_getLast? hlast)
      obtain rfl : 0 = n := by simpa using hn
      exact absurd hpos (Nat.lt_irrefl 0)
  · next offered fault hlast =>
      obtain ⟨n, hn, _⟩ := h _ (List.mem_of_getLast? hlast)
      cases hn
  · rfl

/-- **The last answer decides.** -/
theorem Reached.eq_of {finish : Finish} (h : finish.Reached t attempts result) :
    finish = of attempts := by
  cases finish with
  | emptied => exact (of_eq_emptied h.1).symm
  | stalled =>
      obtain ⟨earlier, rfl, _⟩ := h
      simp [of]
  | failed =>
      obtain ⟨earlier, offered, fault, rfl, _⟩ := h
      simp [of]

/-- An attempt that takes some, before all others, changes nothing about the
end. -/
theorem Reached.cons {t' : Turn ε} {finish : Finish} {a : Attempt}
    (h : finish.Reached t' attempts result) (ha : Attempt.TakesSome a)
    (hunsent : t.unsent = Recorded.taken a ++ t'.unsent)
    (hchannel : t'.link.channel = t.link.channel)
    (hpolicy : t'.link.policy = t.link.policy) :
    finish.Reached t (a :: attempts) result := by
  cases finish with
  | emptied =>
      obtain ⟨htakes, hsent, hpending, hwaiting, hexit⟩ := h
      rw [hchannel] at hwaiting
      refine ⟨List.forall_mem_cons.mpr ⟨ha, htakes⟩, ?_, hpending,
        hwaiting, hexit⟩
      rw [hunsent, hsent, List.flatMap_cons]
  | stalled =>
      obtain ⟨earlier, rfl, htakes, hsent, hpending, hexit⟩ := h
      rw [hchannel] at hsent
      refine ⟨a :: earlier, rfl, List.forall_mem_cons.mpr ⟨ha, htakes⟩, ?_,
        hpending, hexit⟩
      rw [hunsent, hsent, List.flatMap_cons, List.append_assoc]
  | failed =>
      obtain ⟨earlier, offered, fault, rfl, htakes, hsent, hexit⟩ := h
      rw [hchannel] at hsent
      rw [hpolicy] at hexit
      refine ⟨a :: earlier, offered, fault, rfl,
        List.forall_mem_cons.mpr ⟨ha, htakes⟩, ?_, hexit⟩
      rw [hunsent, hsent, List.flatMap_cons, List.append_assoc]

end Finish

namespace Turn

variable {ε : Type} {t : Turn ε} {chunk : Nat}

/-! ## Two places, one measure -/

/-- A refill leaves the link where it is. -/
theorem refill_same (chunk : Nat) (t : Turn ε) :
    (t.refill chunk).link.policy = t.link.policy ∧
      (t.refill chunk).link.channel = t.link.channel := by
  unfold refill
  split <;> exact ⟨rfl, rfl⟩

/-- A refill leaves the pool sound for the next one. -/
theorem refill_sound (h : t.board.pool.Sound) (chunk : Nat) :
    (t.refill chunk).board.pool.Sound := by
  unfold refill
  split
  · exact h.drain _ _
  · exact h

/-- To take a chunk from the channel moves bytes and loses none. -/
theorem unsent_refill (h : t.board.pool.Sound) (chunk : Nat) :
    (t.refill chunk).unsent = t.unsent := by
  unfold unsent refill
  split
  · next hempty =>
      rw [List.isEmpty_iff.mp hempty, List.nil_append]
      exact (h.waiting_drain t.link.channel chunk).symm
  · rfl

/-- There is no chunk to be had only if nothing waits. -/
theorem unsent_of_dry (h : t.board.pool.Sound) (hchunk : 1 ≤ chunk)
    (hdry : (t.refill chunk).link.pending = []) : t.unsent = [] := by
  unfold refill at hdry
  split at hdry
  · next hempty =>
      have hnone : (t.board.pool.drain t.link.channel chunk).2 = [] := hdry
      have hlength := h.length_drain t.link.channel chunk
      rw [hnone, List.length_nil] at hlength
      have hwaiting : (t.board.pool.waiting t.link.channel).length = 0 := by
        omega
      rw [unsent, List.isEmpty_iff.mp hempty,
        List.length_eq_zero_iff.mp hwaiting, List.append_nil]
  · next hsome => exact absurd (List.isEmpty_iff.mpr hdry) hsome

/-- What the endpoint took is gone from the front. -/
theorem unsent_wrote (n : Nat) (t : Turn ε) (endpoint : ε) :
    t.unsent = t.link.pending.take n ++
      (wrote n { t with endpoint }).unsent := by
  have hrest : (wrote n { t with endpoint }).unsent =
      t.link.pending.drop n ++ t.board.pool.waiting t.link.channel := rfl
  rw [hrest, ← List.append_assoc, List.take_append_drop, unsent]

/-- There is a byte for every chunk that is offered. -/
theorem unsent_pos (h : t.board.pool.Sound)
    (hthere : (t.refill chunk).link.pending ≠ []) :
    0 < t.unsent.length := by
  have hpos := List.length_pos_iff.mpr hthere
  rw [← unsent_refill h chunk, unsent, List.length_append]
  omega

variable [Endpoint ε] [LawfulEndpoint ε]

/-- Every attempt that takes some leaves fewer bytes. -/
theorem length_unsent_wrote (h : t.board.pool.Sound) {endpoint : ε} {n : Nat}
    (answer : Endpoint.write (t.refill chunk).endpoint
      (t.refill chunk).link.pending = (endpoint, .ok n)) :
    (wrote n { t.refill chunk with endpoint }).unsent.length + n =
      t.unsent.length := by
  have hle : n ≤ (t.refill chunk).link.pending.length :=
    LawfulEndpoint.write_le answer
  rw [← unsent_refill h chunk, unsent_wrote n (t.refill chunk) endpoint,
    List.length_append, List.length_take, Nat.min_eq_left hle, Nat.add_comm]

/-- **No more attempts than bytes.** -/
theorem Drains.length_le {attempts : List Attempt}
    {result : Turn ε × Option Exit} (hdrains : Drains chunk t attempts result)
    (h : t.board.pool.Sound) :
    attempts.length ≤ t.unsent.length := by
  induction hdrains with
  | dry gone => exact Nat.zero_le _
  | full there answer => exact unsent_pos h there
  | more there answer rest ih =>
      have hfewer := length_unsent_wrote h answer
      have hrest := ih (refill_sound h chunk)
      rw [List.length_cons]
      omega
  | fault there answer => exact unsent_pos h there

/-- **The loop ends**, and within as many attempts as there are bytes and one
look more. -/
theorem drains_drainWithin (h : t.board.pool.Sound) {attempts : Nat}
    (henough : t.unsent.length < attempts) :
    ∃ made, Drains chunk t made (drainWithin chunk attempts t) := by
  induction attempts generalizing t with
  | zero => exact absurd henough (Nat.not_lt_zero _)
  | succ attempts ih =>
      unfold drainWithin
      dsimp only
      split
      · next hempty => exact ⟨_, .dry (List.isEmpty_iff.mp hempty)⟩
      · next hsome =>
          have hthere : (t.refill chunk).link.pending ≠ [] :=
            mt List.isEmpty_iff.mpr hsome
          split
          · next endpoint answer => exact ⟨_, .full hthere answer⟩
          · next endpoint n hn answer =>
              cases n with
              | zero => exact absurd rfl hn
              | succ n =>
                  have hfewer := length_unsent_wrote h answer
                  obtain ⟨made, hrest⟩ :=
                    ih (t := wrote (n + 1) { t.refill chunk with endpoint })
                    (refill_sound h chunk) (by omega)
                  exact ⟨_, .more hthere answer hrest⟩
          · next endpoint fault answer => exact ⟨_, .fault hthere answer⟩

/-- A drain has attempts enough to come to its end. -/
theorem drains_drain (h : t.board.pool.Sound) (chunk : Nat) :
    ∃ made, Drains chunk t made (t.drain chunk) :=
  drains_drainWithin h (by rw [length_unsent]; exact Nat.lt_succ_self _)

omit [LawfulEndpoint ε] in
/-- **There is one way to go through the loop.** -/
theorem Drains.unique {made made' : List Attempt}
    {result result' : Turn ε × Option Exit}
    (hdrains : Drains chunk t made result)
    (hdrains' : Drains chunk t made' result') :
    made = made' ∧ result = result' := by
  induction hdrains generalizing made' result' with
  | dry gone =>
      cases hdrains' with
      | dry => exact ⟨rfl, rfl⟩
      | full there => exact absurd gone there
      | more there => exact absurd gone there
      | fault there => exact absurd gone there
  | full there answer =>
      cases hdrains' with
      | dry gone => exact absurd gone there
      | full _ answer' =>
          cases answer.symm.trans answer'
          exact ⟨rfl, rfl⟩
      | more _ answer' => cases answer.symm.trans answer'
      | fault _ answer' => cases answer.symm.trans answer'
  | more there answer rest ih =>
      cases hdrains' with
      | dry gone => exact absurd gone there
      | full _ answer' => cases answer.symm.trans answer'
      | more _ answer' rest' =>
          cases answer.symm.trans answer'
          obtain ⟨rfl, rfl⟩ := ih rest'
          exact ⟨rfl, rfl⟩
      | fault _ answer' => cases answer.symm.trans answer'
  | fault there answer =>
      cases hdrains' with
      | dry gone => exact absurd gone there
      | full _ answer' => cases answer.symm.trans answer'
      | more _ answer' => cases answer.symm.trans answer'
      | fault _ answer' =>
          cases answer.symm.trans answer'
          exact ⟨rfl, rfl⟩

omit [LawfulEndpoint ε] in
/-- **How the loop ends.** -/
theorem Drains.reached {made : List Attempt} {result : Turn ε × Option Exit}
    (hdrains : Drains chunk t made result) (h : t.board.pool.Sound)
    (hchunk : 1 ≤ chunk) :
    ∃ finish : Finish, finish.Reached t made result := by
  induction hdrains with
  | @dry t gone =>
      have hnone : (t.refill chunk).unsent = [] :=
        (unsent_refill h chunk).trans (unsent_of_dry h hchunk gone)
      rw [unsent, (refill_same chunk t).2] at hnone
      exact ⟨.emptied, nofun, unsent_of_dry h hchunk gone, gone,
        (List.append_eq_nil_iff.mp hnone).2, rfl⟩
  | @full t endpoint there answer =>
      refine ⟨.stalled, [], rfl, nofun, ?_, there, rfl⟩
      rw [← unsent_refill h chunk, unsent, (refill_same chunk t).2]
      rfl
  | @more t endpoint n made result there answer rest ih =>
      obtain ⟨finish, hreached⟩ := ih (refill_sound h chunk)
      refine ⟨finish, hreached.cons ⟨n + 1, rfl, Nat.succ_pos n⟩ ?_
        (refill_same chunk t).2
        (refill_same chunk t).1⟩
      rw [← unsent_refill h chunk]
      exact unsent_wrote (n + 1) (t.refill chunk) endpoint
  | @fault t endpoint fault there answer =>
      refine ⟨.failed, [], _, fault, rfl, nofun, ?_, ?_⟩
      · rw [← unsent_refill h chunk, unsent, (refill_same chunk t).2]
        unfold writeFailed
        dsimp only
        split <;> rfl
      · rw [← (refill_same chunk t).1]
        unfold writeFailed count
        dsimp only
        split <;> exact ⟨rfl, rfl⟩

/-! ## The rest of a tick -/

omit [LawfulEndpoint ε]

/-- A read sends nothing. -/
theorem unsent_read (size : Nat) (t : Turn ε) :
    (t.read size).1.unsent = t.unsent := by
  unfold Turn.read
  split
  · rfl
  · dsimp only
    split <;> rfl

omit [Endpoint ε]

/-- A flag sends nothing. -/
theorem unsent_setChannelActive (active : Bool) (t : Turn ε) :
    (t.setChannelActive active).unsent = t.unsent := by
  have hwaiting :=
    t.board.pool.waiting_setClaimActive t.link.claim active t.link.channel
  exact congrArg (t.link.pending ++ ·) hwaiting

theorem unsent_flagIf (b active : Bool) (t : Turn ε) :
    (if b then t.setChannelActive active else t).unsent = t.unsent := by
  cases b with
  | true => exact unsent_setChannelActive active t
  | false => rfl

/-- A heartbeat that comes in sends nothing. -/
theorem unsent_beat (now : Nat) (t : Turn ε) :
    (t.beat now).unsent = t.unsent := by
  unfold beat
  dsimp only
  split
  · exact unsent_flagIf _ _ _
  · rfl

/-- A byte that comes in sends nothing. -/
theorem unsent_receive (h : Handler) (now : Nat) (b : UInt8) (t : Turn ε) :
    (t.receive h now b).unsent = t.unsent := by
  have hjudge (f : Frame) (t : Turn ε) : (t.judge f (h.verdict f)).unsent =
      t.unsent := by
    unfold judge
    cases h.verdict f <;> rfl
  have hdecode : (t.decode b).1.unsent = t.unsent := rfl
  unfold receive
  split
  · next heq =>
      rw [heq] at hdecode
      exact hdecode
  · next t₁ f heq =>
      rw [heq] at hdecode
      dsimp only
      split
      · rw [unsent_beat, hjudge, hdecode]
      · rw [hjudge, hdecode]

/-- All that was read is taken in, and nothing is sent meanwhile. -/
theorem unsent_ingest (h : Handler) (now : Nat) (bytes : Bytes) (t : Turn ε) :
    (t.ingest h now bytes).unsent = t.unsent := by
  have hbytes : (bytes.foldl (receive h now) t).unsent = t.unsent := by
    induction bytes generalizing t with
    | nil => rfl
    | cons b rest ih => rw [List.foldl_cons, ih, unsent_receive]
  exact hbytes

/-- A look at the deadline sends nothing. -/
theorem unsent_checkDeadline (now : Nat) (t : Turn ε) :
    (t.checkDeadline now).1.unsent = t.unsent := by
  unfold checkDeadline
  dsimp only
  split
  · exact unsent_flagIf _ _ _
  · rfl
  · rfl

variable [Endpoint ε]

/-- **A tick sends** what its writing sends: what comes after it in the tick
neither adds to what is on its way out nor takes from it. -/
theorem unsent_tick {config : LinkConfig} (h : Handler) (now : Nat)
    (held : t.board.pool.holds t.link.claim = true) :
    (t.tick config h now).1.unsent = (t.drain config.writeChunk).1.unsent := by
  unfold tick
  rw [held]
  simp only [Bool.not_true, Bool.false_eq_true, if_false]
  split
  · next heq => rw [heq]
  · next t₁ heq =>
      rw [heq]
      have hread := unsent_read config.readBuffer t₁
      split
      · next heq₂ =>
          rw [heq₂] at hread
          exact hread
      · next t₂ bytes heq₂ =>
          rw [heq₂] at hread
          rw [unsent_checkDeadline, unsent_ingest]
          exact hread

end Turn

/-- **Writing ends, and sends what can be sent.**  Take any link over channels
as they come about, any endpoint, which may answer anything but that it took
more than it was offered, and nothing published in the meantime.  Then the loop
comes to its end, in one way only, and that is what `Turn.drain` does.  It makes
no more attempts than there are bytes in the chunk at hand and in the queue.  It
ends in exactly one of three ways: all attempts took something, and chunk and
queue are empty; or the last one took nothing, and the chunk it offered is at
hand still, with the queue as it was behind it; or the last one failed, and the
link is to end with its chunk at hand, or the chunk is given up and the queue is
as it was behind it, whatever the policy says.  A fault on the very last chunk
is the third way also where it leaves nothing.  So if every attempt takes at
least one byte, everything is taken, and after one tick nothing is left. -/
theorem drain_ends {ε : Type} [Endpoint ε] [LawfulEndpoint ε] {t : Turn ε}
    {config : LinkConfig} (hsound : t.board.pool.Sound)
    (hchunk : 1 ≤ config.writeChunk) :
    let result := t.drain config.writeChunk
    ∃ made, t.Drains config.writeChunk made result ∧
      (∀ made' result', t.Drains config.writeChunk made' result' →
        made' = made ∧ result' = result) ∧
      made.length ≤ t.link.pending.length + t.board.pool.queued t.link.channel ∧
      (∃! finish : Finish, finish.Reached t made result) ∧
      ((∀ a ∈ made, Attempt.TakesSome a) →
        made.flatMap Recorded.taken =
            t.link.pending ++ t.board.pool.waiting t.link.channel ∧
          (t.board.pool.holds t.link.claim = true → ∀ (h : Handler) (now : Nat),
            let after := (t.tick config h now).1
            after.link.pending = [] ∧
            after.board.pool.waiting after.link.channel = [])) := by
  intro result
  obtain ⟨made, hdrains⟩ := Turn.drains_drain hsound config.writeChunk
  obtain ⟨finish, hreached⟩ := hdrains.reached hsound hchunk
  refine ⟨made, hdrains, fun _ _ hdrains' => hdrains'.unique hdrains, ?_,
    ⟨finish, hreached, fun _ hother => hother.eq_of.trans hreached.eq_of.symm⟩,
    ?_⟩
  · have hlength := hdrains.length_le hsound
    rwa [Turn.length_unsent] at hlength
  · intro htakes
    obtain rfl : finish = .emptied :=
      hreached.eq_of.trans (Finish.of_eq_emptied htakes)
    obtain ⟨_, hsent, hpending, hwaiting, _⟩ := hreached
    refine ⟨hsent.symm, ?_⟩
    intro held h now after
    have hside : t.SameSide result.1 :=
      Turn.sameSide_drainWithin config.writeChunk _ t
    have hchannel : result.1.link.channel = t.link.channel :=
      congrArg Claim.index hside.claim
    have hnone : after.unsent = [] := by
      rw [Turn.unsent_tick h now held, Turn.unsent, hchannel, hpending,
        hwaiting, List.append_nil]
    exact List.append_eq_nil_iff.mp hnone

/-- A fault on the very last chunk: it is given up, so that nothing is left, but
the loop has failed and not emptied. -/
example :
    let t : Turn Pipe :=
      { link :=
          { Link.connect "out" ⟨0, 1⟩ .memory {} {} 0 with pending := [1] }
        board := { pool := ((Downlink.single 8).run [.claim]).pool }
        endpoint := { failWrites := true } }
    t.Drains 4 [([1], .error .brokenPipe)] (t.drain 4) ∧
      (t.drain 4).1.unsent = [] ∧
      Finish.failed.Reached t [([1], .error .brokenPipe)] (t.drain 4) :=
  ⟨.fault (by decide) rfl, rfl, [], [1], .brokenPipe, rfl, by simp, rfl, rfl,
    rfl⟩

/-- A link with two bytes at hand and five on its channel, over an endpoint that
takes three at most in one write. -/
def halfway : Turn Pipe where
  link := { Link.connect "out" ⟨0, 1⟩ .memory {} {} 0 with pending := [1, 2] }
  board :=
    { pool := ((Downlink.single 8).run
        [.claim, .setActive 0 true, .publish [3, 4, 5, 6, 7]]).pool }
  endpoint := { writeLimit := some 3 }

/-- The attempts that it makes with chunks of four bytes. -/
def halfwayAttempts : List Attempt :=
  [([1, 2], .ok 2), ([3, 4, 5, 6], .ok 3), ([6], .ok 1), ([7], .ok 1)]

/-- In one tick all seven bytes are taken. -/
theorem halfway_drained :
    halfway.Drains 4 halfwayAttempts (halfway.drain 4) ∧
      halfwayAttempts.length ≤
        halfway.link.pending.length + halfway.board.pool.queued 0 ∧
      (∃! finish : Finish,
        finish.Reached halfway halfwayAttempts (halfway.drain 4)) ∧
      halfwayAttempts.flatMap Recorded.taken = [1, 2, 3, 4, 5, 6, 7] ∧
      (halfway.tick { writeChunk := 4 } .accepting 1).1.link.pending = [] := by
  have hcreate : Pool.create? 1 8 = some (Downlink.single 8).pool := rfl
  have hsound : halfway.board.pool.Sound :=
    Downlink.sound_run (Pool.Sound.create? hcreate) _
  have hheld : halfway.board.pool.holds halfway.link.claim = true := rfl
  have htakes : ∀ a ∈ halfwayAttempts, Attempt.TakesSome a := by
    simp [halfwayAttempts, Attempt.TakesSome]
  obtain ⟨result, hattempts⟩ : ∃ result,
      halfway.Drains 4 halfwayAttempts result :=
    ⟨_, .more (by decide) rfl (.more (by decide) rfl (.more (by decide) rfl
      (.more (by decide) rfl (.dry rfl))))⟩
  obtain ⟨made, hdrains, hunique, hlength, hfinish, hall⟩ :=
    @drain_ends Pipe _ _ halfway { writeChunk := 4 } hsound (by decide)
  obtain ⟨rfl, _⟩ := hunique _ _ hattempts
  obtain ⟨hsent, htick⟩ := hall htakes
  exact ⟨hdrains, hlength, hfinish, hsent, (htick hheld .accepting 1).1⟩

end GroundLink
