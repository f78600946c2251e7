import GroundLink.Link.Traffic

/-!
# The logbook of a link

A link ends in the first tick that gives it a reason to.  What the reasons are
can be seen from outside: whether the link had its channel when the tick began,
how its endpoint answered, and how long ago a heartbeat was due.  A `Tick` keeps
that of one tick, and `Tick.exit?` is what follows from it under a policy.

`Traffic.ticksOver` keeps the logbook of one link while things happen to all of
them, the latest tick first; it looks on and changes nothing.  The calls of an
endpoint are seen by a log that is put beside it (`Logged`).
-/

namespace GroundLink

/-! ## What an endpoint answers -/

/-- What an endpoint has been called for, and its answer. -/
inductive Call
  | write (answer : Except Fault Nat)
  | read (answer : Except Fault Bytes)

namespace Call

def isWrite : Call → Bool
  | write _ => true
  | read _ => false

def isFailedWrite : Call → Bool
  | write (.error _) => true
  | _ => false

/-- Whether a read says that the other side is gone for good. -/
def isClosedRead : Call → Bool
  | read (.error fault) => fault.isClosed
  | _ => false

end Call

/-- An endpoint with a log of its calls, the oldest first. -/
structure Logged (ε : Type) where
  port : ε
  calls : List Call := []

instance {ε : Type} [Endpoint ε] : Endpoint (Logged ε) where
  transport e := Endpoint.transport e.port
  read e n :=
    ({ port := (Endpoint.read e.port n).1
       calls := e.calls ++ [.read (Endpoint.read e.port n).2] },
       (Endpoint.read e.port n).2)
  write e bytes :=
    ({ port := (Endpoint.write e.port bytes).1
       calls := e.calls ++ [.write (Endpoint.write e.port bytes).2] },
      (Endpoint.write e.port bytes).2)

namespace Turn

variable {ε : Type} (t : Turn ε)

/-- The turn with a new log beside the endpoint. -/
def logged : Turn (Logged ε) :=
  ⟨t.link, t.board, { port := t.endpoint }, t.events⟩

/-- The calls of the endpoint in a stretch of work. -/
def calls [Endpoint ε] (config : LinkConfig) (cue : Cue) (stand : Stand) :
    List Call :=
  (t.logged.resume config cue stand).1.endpoint.calls

end Turn

/-! ## Ticks -/

/-- What can be seen of one tick of a link. -/
structure Tick where
  time : Nat
  /-- Whether the link had its channel when the tick began. -/
  held : Bool
  /-- When the next heartbeat is due, after the frames that have been decided
  on. -/
  deadline : Nat
  calls : List Call := []
  /-- Whether all that was read has been decided on, and all said that was to be
  said. -/
  complete : Bool := false

namespace Tick

/-- Why a tick ends the link, if it does.  The first reason counts. -/
def exit? (policy : Policy) (x : Tick) : Option Exit :=
  if ! x.held then some .evicted
  else if policy.exitOnError && x.calls.any Call.isFailedWrite
    then some .writeError
  else if x.calls.any Call.isClosedRead then some .closed
  else if x.complete && policy.exitOnIdle && decide (x.deadline < x.time)
    then some .idle
  else none

/-- A tick uses its endpoint as it should: not at all without the channel; else
to write and then to read once, unless a write that failed ends the link. -/
structure Lawful (policy : Policy) (x : Tick) : Prop where
  away : x.held = false → x.calls = []
  here : x.held = true → ∃ writes, (∀ call ∈ writes, call.isWrite = true) ∧
    if policy.exitOnError && writes.any Call.isFailedWrite then x.calls = writes
    else ∃ answer, x.calls = writes ++ [.read answer]

/-- The tick goes on, with more calls. -/
def goOn (calls : List Call) (complete : Bool) (x : Tick) : Tick :=
  { x with calls := x.calls ++ calls, complete }

/-- A frame has been decided on.  A heartbeat moves the deadline. -/
def hear (timeout : Nat) (f : Frame) (x : Tick) : Tick :=
  if f.isHeartbeat then { x with deadline := x.time + timeout } else x

end Tick

/-- The reasons to end that there were. -/
def exits (policy : Policy) (book : List Tick) : List Exit :=
  book.filterMap (Tick.exit? policy)

/-- When the next heartbeat is due when a tick begins: as after the latest one,
or as from the moment in which the link was connected. -/
def Link.due (timeout : Nat) (l : Link) : List Tick → Nat
  | [] => l.startedAt + timeout
  | x :: _ => x.deadline

namespace Stand

/-- Whether a link that was in a tick has left it. -/
def isTickOver : Stand → Bool
  | .waiting | .ending => true
  | _ => false

/-- How many times at most a link goes on until the tick that it is in is
over. -/
def ahead : Stand → Nat
  | .judging _ _ rest => 2 * rest.length + 3
  | .greeting _ rest => 2 * rest.length + 2
  | .parting _ => 1
  | _ => 0

end Stand

/-! ## Keeping the logbook -/

namespace Event

/-- The reason that a report gives. -/
def exit? : Event → Option Exit
  | terminated report => some report.exit
  | _ => none

/-- Whether the handler is told that the link has ended. -/
def isEnded : Event → Bool
  | ended => true
  | _ => false

end Event

variable {ε : Type} [Endpoint ε]

/-- The logbook when a link goes on: a tick begins, or the latest goes on. -/
def Turn.log (config : LinkConfig) (cue : Cue) (stand : Stand) (t : Turn ε)
    (book : List Tick) :
    List Tick :=
  let calls := t.calls config cue stand
  let complete := (t.resume config cue stand).2.isTickOver
  match stand, book with
  | .waiting, book =>
      { time := cue.now, held := t.board.pool.holds t.link.claim
        deadline := t.link.due config.heartbeatTimeout book, calls,
        complete } :: book
  | .judging _ f _, x :: past =>
      (x.hear config.heartbeatTimeout f).goOn calls complete :: past
  | .greeting .., x :: past | .parting _, x :: past =>
      x.goOn calls complete :: past
  | _, book => book

namespace Traffic

/-- The logbook of link `k` after one act. -/
def log (w : Traffic ε) (k : Nat) (book : List Tick) : Act ε → List Tick
  | .resume j cue =>
      match w.courses[j]? with
      | some c =>
          if j = k then (c.turn w.board).log c.config cue c.stand book else book
      | none => book
  | _ => book

/-- The logbook of link `k` after acts one after the other. -/
def ticksOver (k : Nat) (w : Traffic ε) (book : List Tick) :
    List (Act ε) → List Tick
  | [] => book
  | a :: acts => ticksOver k (w.act a) (w.log k book a) acts

end Traffic

/-- **What is on record of the end**, by the logbook.  If a tick gave a reason
to end, it is the latest; the link has reported that reason and nothing else,
and has told its handler once that it has ended. -/
structure Concludes (policy : Policy) (book : List Tick) (events : List Event) :
    Prop where
  lawful : ∀ x ∈ book, x.Lawful policy
  first : ∀ x ∈ book.tail, x.complete = true ∧ x.exit? policy = none
  reported : events.filterMap Event.exit? = exits policy book
  told : events.countP Event.isEnded = if exits policy book = [] then 0 else 1

end GroundLink
