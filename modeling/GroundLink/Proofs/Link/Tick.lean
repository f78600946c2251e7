import GroundLink.Link.Stretch
import Mathlib.Logic.Relation

/-!
# A tick is its stretches

A tick that nobody disturbs can be run in one go (`Turn.tick`), or from one wait
to the next (`Turn.resume`) with the handler answering at each wait.  The two
come to the same:

* `receive_stretches` — for the bytes that a tick has read, frame by frame;
* `tick_stretches` — for a whole tick and, if the tick ends the link, its end.

What is proved about stretches of work is therefore proved about ticks, and it
holds in between as well.
-/

namespace GroundLink

/-- Whether the link waits in the middle of a tick. -/
def Stand.isWithin : Stand → Bool
  | .judging .. | .greeting .. | .parting _ => true
  | _ => false

/-- What a handler answers to what the link waits for. -/
def Stand.verdict (h : Handler) : Stand → Except Refusal Unit
  | .judging _ f _ => h.verdict f
  | _ => .ok ()

namespace Turn

variable {ε : Type} [Endpoint ε] {config : LinkConfig} {h : Handler} {cue : Cue}

/-- The handler answers a link that waits in the middle of a tick, and the link
goes on at once. -/
def Onward (config : LinkConfig) (h : Handler) (cue : Cue)
    (a b : Turn ε × Stand) : Prop :=
  a.2.isWithin = true ∧
    b = a.1.resume config { cue with verdict := a.2.verdict h } a.2

/-- Going on like that for any number of waits. -/
abbrev Onwards (config : LinkConfig) (h : Handler) (cue : Cue) :
    Turn ε × Stand → Turn ε × Stand → Prop :=
  Relation.ReflTransGen (Onward config h cue)

/-- Where a link is after a tick: at its next wait, or at its end. -/
def settle (cue : Cue) : Turn ε × Option Exit → Turn ε × Stand
  | (t, none) => (t, .waiting)
  | (t, some exit) => t.leave exit cue

/-- Once all bytes are decoded, what is left of the tick is to look at the
clock. -/
theorem endTick_stretches (now : Nat) (t : Turn ε) :
    Onwards config h cue (t.endTick now cue)
      (settle cue
        ((t.count fun s =>
          { s with
            parseErrors := t.link.decoder.stats.parseErrors }).checkDeadline
              now)) := by
  unfold endTick
  dsimp only
  split
  · -- the handler is told that the link is idle before the link may end
    next t₁ exit _ heq =>
      rw [heq]
      refine .single ⟨rfl, ?_⟩
      cases exit <;> rfl
  · next t₁ exit heq _ =>
      rw [heq]
      exact .refl
  · next t₁ heq _ =>
      rw [heq]
      exact .refl

omit [Endpoint ε] in
/-- Decoding asks the handler nothing, so that its answer does not matter. -/
theorem takeIn_verdict (now : Nat) (verdict : Except Refusal Unit)
    (bytes : Bytes) (t : Turn ε) :
    t.takeIn now { cue with verdict } bytes = t.takeIn now cue bytes := by
  induction bytes generalizing t with
  | nil => rfl
  | cons b rest ih =>
      unfold takeIn
      split
      · exact ih _
      · rfl

/-- **Decoding frame by frame** does what decoding in one go does. -/
theorem receive_stretches (now : Nat) (bytes : Bytes) (t : Turn ε) :
    Onwards config h cue (t.takeIn now cue bytes)
      (settle cue ((t.ingest h now bytes).checkDeadline now)) := by
  induction bytes generalizing t with
  | nil => exact endTick_stretches now t
  | cons b rest ih =>
      have hrest : t.ingest h now (b :: rest) =
          (t.receive h now b).ingest h now rest := rfl
      rw [hrest]
      unfold takeIn
      split
      · next t₁ heq =>
          have hreceive : t.receive h now b = t₁ := by simp only [receive, heq]
          rw [hreceive]
          exact ih t₁
      · next t₁ f heq =>
          have hreceive : t.receive h now b =
              if f.isHeartbeat then (t₁.judge f (h.verdict f)).beat now
              else t₁.judge f (h.verdict f) := by simp only [receive, heq]
          -- the handler answers, and decoding goes on with the next byte
          have hweigh : Onward config h cue (t₁, .judging now f rest)
              (t₁.weigh now f rest { cue with verdict := h.verdict f }) :=
            ⟨rfl, rfl⟩
          refine .head hweigh ?_
          unfold weigh
          dsimp only
          rw [hreceive]
          by_cases hbeat : f.isHeartbeat = true
          · rw [if_pos hbeat, if_pos hbeat]
            by_cases hactive :
              (t₁.judge f (h.verdict f)).link.tracker.active = true
            · rw [if_pos hactive, takeIn_verdict]
              exact ih _
            · -- the handler is told that the link is active before decoding
              -- goes on
              rw [if_neg hactive]
              refine .head ⟨rfl, rfl⟩ ?_
              have hgreet :
                  resume (ε := ε) config { cue with verdict := .ok () }
                  (.greeting now rest) = takeIn now cue rest :=
                funext (takeIn_verdict now _ rest)
              exact (congrFun hgreet _) ▸ ih _
          · rw [if_neg hbeat, if_neg hbeat, takeIn_verdict]
            exact ih _

/-- **A tick is its stretches.**  If nothing comes in between, going on from
wait to wait ends where the tick ends, and with the link's own end if the tick
gives a reason for one. -/
theorem tick_stretches (config : LinkConfig) (h : Handler) (cue : Cue)
    (t : Turn ε) :
    Onwards config h cue (t.resume config cue .waiting)
      (settle cue (t.tick config h cue.now)) := by
  have hstart : t.resume config cue .waiting = t.startTick config cue := rfl
  rw [hstart]
  unfold startTick tick
  by_cases hheld : t.board.pool.holds t.link.claim = true
  · simp only [hheld, Bool.not_true, Bool.false_eq_true, if_false]
    rcases t.drain config.writeChunk with ⟨t₁, _ | exit⟩
    · dsimp only
      rcases t₁.read config.readBuffer with ⟨t₂, exit | bytes⟩
      · exact .refl
      · exact receive_stretches cue.now bytes t₂
    · exact .refl
  · simp only [hheld, Bool.not_false, if_true]
    exact .refl

end Turn

end GroundLink
