import GroundLink.Channel.Downlink
import GroundLink.Link.Stretch

/-!
# Many links at once

`Traffic` is any number of links on their way, over one downlink and one count
of active links.  What happens to it is a sequence of acts in any order: a link
is connected, goes on from where it waits to its next wait, or is dropped
wherever it waits; somebody asks something of the downlink; the far end of an
endpoint does something.  No act says when the next one comes, and none is ever
refused, so that `Traffic.run` covers every order of them.
-/

namespace GroundLink

/-- A link on its way: with its settings, its endpoint, the record of what it
has done, and where it waits. -/
structure Course (ε : Type) where
  link : Link
  config : LinkConfig
  endpoint : ε
  events : List Event := []
  stand : Stand := .connected

/-- Links on their way, and what they share. -/
structure Traffic (ε : Type) where
  downlink : Downlink
  active : ActiveCount := {}
  courses : List (Course ε) := []

/-- What can happen. -/
inductive Act (ε : Type)
  /-- A link is connected: it gets the lowest free channel, or is refused. -/
  | connect (name : String) (policy : Policy) (config : LinkConfig) (now : Nat)
      (endpoint : ε)
  /-- Link `k` goes on. -/
  | resume (k : Nat) (cue : Cue)
  /-- Link `k` is dropped. -/
  | drop (k : Nat)
  /-- The far end of link `k` does something. -/
  | far (k : Nat) (f : ε → ε)
  /-- Somebody asks something of the downlink. -/
  | ask (op : Downlink.Op)

namespace Course

variable {ε : Type} (c : Course ε)

/-- Everything that the link can touch. -/
def turn (b : Board) : Turn ε := ⟨c.link, b, c.endpoint, c.events⟩

/-- The link after a stretch of work. -/
def after (t : Turn ε) (stand : Stand) : Course ε :=
  { c with link := t.link, endpoint := t.endpoint, events := t.events, stand }

/-- Whether the link counts as active. -/
def isActive : Bool := c.link.state == .active

end Course

namespace Traffic

variable {ε : Type} (w : Traffic ε)

/-- Nothing has happened yet. -/
def start (d : Downlink) : Traffic ε := { downlink := d }

/-- What links share. -/
def board : Board := ⟨w.downlink.pool, w.active⟩

/-- Takes back what a stretch of work of link `k` has made of things. -/
def commit (k : Nat) (c : Course ε) (t : Turn ε) (stand : Stand) :
    Traffic ε where
  downlink := { w.downlink with pool := t.board.pool }
  active := t.board.active
  courses := w.courses.set k (c.after t stand)

/-- Only link `k` is another one after its own stretch of work. -/
theorem courses_commit {w : Traffic ε} {k : Nat} {c : Course ε}
    (hk : w.courses[k]? = some c) (t : Turn ε) (stand : Stand) (j : Nat) :
    (w.commit k c t stand).courses[j]? =
      if k = j then some (c.after t stand) else w.courses[j]? := by
  obtain ⟨hlt, _⟩ := List.getElem?_eq_some_iff.mp hk
  simp only [commit, List.getElem?_set, hlt, if_true]

variable [Endpoint ε]

/-- Connects a link, if there is a channel for it. -/
def connect (name : String) (policy : Policy) (config : LinkConfig) (now : Nat)
    (endpoint : ε) :
    Traffic ε :=
  match w.downlink.pool.claim with
  | (_, none) => w
  | (pool, some claim) =>
      let link :=
        Link.connect name claim (Endpoint.transport endpoint) policy config now
      { w with
        downlink := { w.downlink with pool }
        courses := w.courses ++ [{ link, config, endpoint }] }

/-- Lets one thing happen. -/
def act : Act ε → Traffic ε
  | .connect name policy config now endpoint =>
      w.connect name policy config now endpoint
  | .resume k cue =>
      match w.courses[k]? with
      | none => w
      | some c =>
          let (t, stand) := (c.turn w.board).resume c.config cue c.stand
          w.commit k c t stand
  | .drop k =>
      match w.courses[k]? with
      | none => w
      | some c => w.commit k c (c.turn w.board).release .finished
  | .far k f =>
      match w.courses[k]? with
      | none => w
      | some c =>
        { w with
          courses := w.courses.set k { c with endpoint := f c.endpoint } }
  | .ask op => { w with downlink := (w.downlink.perform op).1 }

/-- Lets things happen one after the other. -/
def run (acts : List (Act ε)) : Traffic ε := acts.foldl (fun w a => w.act a) w

@[simp] theorem run_nil : w.run [] = w := rfl

@[simp] theorem run_cons (a : Act ε) (acts : List (Act ε)) :
    w.run (a :: acts) = (w.act a).run acts := rfl

theorem run_append (as bs : List (Act ε)) :
    w.run (as ++ bs) = (w.run as).run bs :=
  List.foldl_append

/-! ## What an act can do -/

/-- What link `k` makes of things in an act of its own, and where it waits
then. -/
inductive Work (k : Nat) (c : Course ε) (b : Board) :
    Act ε → Turn ε → Stand → Prop
  | resume (cue : Cue) :
      Work k c b (.resume k cue) ((c.turn b).resume c.config cue c.stand).1
        ((c.turn b).resume c.config cue c.stand).2
  | drop : Work k c b (.drop k) (c.turn b).release .finished
  | far (f : ε → ε) :
      Work k c b (.far k f) { c.turn b with endpoint := f c.endpoint } c.stand

/-- **What an act can do.**  Nothing, if its link is not there or no channel is
free; or the work of one link; or one link more; or a request. -/
theorem act_cases (a : Act ε) :
    ((∀ op, a ≠ .ask op) ∧ w.act a = w) ∨
      (∃ k c t stand, w.courses[k]? = some c ∧ Work k c w.board a t stand ∧
        w.act a = w.commit k c t stand) ∨
      (∃ name policy config now endpoint pool claim,
        a = .connect name policy config now endpoint ∧
        w.downlink.pool.claim = (pool, some claim) ∧
        w.act a = { w with
          downlink := { w.downlink with pool }
          courses := w.courses ++ [{
            link :=
            .connect name claim (Endpoint.transport endpoint) policy config now
            config, endpoint }] }) ∨
      ∃ op, a = .ask op ∧
        w.act a = { w with downlink := (w.downlink.perform op).1 } := by
  cases a with
  | connect name policy config now endpoint =>
      cases hclaim : w.downlink.pool.claim with
      | mk pool c =>
          cases c with
          | none => exact Or.inl ⟨nofun, by simp only [act, connect, hclaim]⟩
          | some claim =>
              exact Or.inr
                (Or.inr (Or.inl ⟨name, policy, config, now, endpoint, pool,
                  claim, rfl, rfl, by simp only [act, connect, hclaim]⟩))
  | resume k cue =>
      cases hk : w.courses[k]? with
      | none => exact Or.inl ⟨nofun, by simp only [act, hk]⟩
      | some c =>
          exact Or.inr
            (Or.inl ⟨k, c, _, _, hk, .resume cue, by simp only [act, hk]⟩)
  | drop k =>
      cases hk : w.courses[k]? with
      | none => exact Or.inl ⟨nofun, by simp only [act, hk]⟩
      | some c =>
          exact Or.inr (Or.inl ⟨k, c, _, _, hk, .drop, by simp only [act, hk]⟩)
  | far k f =>
      cases hk : w.courses[k]? with
      | none => exact Or.inl ⟨nofun, by simp only [act, hk]⟩
      | some c =>
          exact Or.inr
            (Or.inl ⟨k, c, _, _, hk, .far f, by simp only [act, hk]; rfl⟩)
  | ask op => exact Or.inr (Or.inr (Or.inr ⟨op, rfl, rfl⟩))

variable {w}

/-- What becomes of link `k`: its own work, or nothing. -/
theorem course_act {k : Nat} {c : Course ε} (hk : w.courses[k]? = some c)
    (a : Act ε) :
    (w.act a).courses[k]? = some c ∨
      ∃ t stand, Work k c w.board a t stand ∧ w.act a = w.commit k c t stand ∧
        (w.act a).courses[k]? = some (c.after t stand) := by
  rcases w.act_cases a with ⟨_, hsame⟩ | ⟨j, c₀, t, stand, hj, hwork, heq⟩ |
    ⟨name, policy, config, now, endpoint, pool, claim, _, _, heq⟩ | ⟨op, _, heq⟩
  · exact Or.inl (by rw [hsame]; exact hk)
  · by_cases hjk : j = k
    · subst hjk
      obtain rfl := Option.some.inj (hk.symm.trans hj)
      exact Or.inr ⟨t, stand, hwork, heq, by
          rw [heq, courses_commit hj, if_pos rfl]⟩
    · exact Or.inl (by rw [heq, courses_commit hj, if_neg hjk]; exact hk)
  · obtain ⟨hlt, _⟩ := List.getElem?_eq_some_iff.mp hk
    exact Or.inl (by rw [heq]; exact (List.getElem?_append_left hlt).trans hk)
  · exact Or.inl (by rw [heq]; exact hk)

theorem act_resume {k : Nat} {c : Course ε} (hk : w.courses[k]? = some c)
    (cue : Cue) :
    w.act (.resume k cue) =
      w.commit k c ((c.turn w.board).resume c.config cue c.stand).1
        ((c.turn w.board).resume c.config cue c.stand).2 := by
  simp only [act, hk]

theorem act_drop {k : Nat} {c : Course ε} (hk : w.courses[k]? = some c) :
    w.act (.drop k) = w.commit k c (c.turn w.board).release .finished := by
  simp only [act, hk]

theorem act_far {k : Nat} {c : Course ε} (hk : w.courses[k]? = some c)
    (f : ε → ε) :
    w.act (.far k f) =
      w.commit k c { c.turn w.board with endpoint := f c.endpoint }
        c.stand := by
  simp only [act, hk]
  rfl

/-- A link that has come in has the claim that was handed out. -/
theorem act_connect {name : String} {policy : Policy} {config : LinkConfig}
    {now : Nat} {endpoint : ε} {c : Course ε}
    (hc :
      (w.act
        (.connect name policy config now endpoint)).courses[w.courses.length]? =
          some c) :
    ∃ pool claim, w.downlink.pool.claim = (pool, some claim) ∧
      c = {
        link :=
  .connect name claim (Endpoint.transport endpoint) policy config now
        config, endpoint } ∧
      (w.act (.connect name policy config now endpoint)).board =
        ⟨pool, w.active⟩ := by
  simp only [act, connect] at hc ⊢
  rcases hclaim : w.downlink.pool.claim with ⟨pool, _ | claim⟩
  · simp [hclaim] at hc
  · simp only [hclaim, List.getElem?_concat_length, Option.some.injEq] at hc
    exact ⟨pool, claim, rfl, hc.symm, rfl⟩

end Traffic

end GroundLink
