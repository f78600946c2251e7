import GroundLink.Port.Parcels

/-!
# Both ends of a pipe

A pipe is used from both its ends, in any order: its peer does what peers do,
its endpoint is read from and written to, and either goes away.  Whoever has
gone does nothing more.  `TwoEnded.perform` does one thing and says what is
learned from it.

A `Ledger` is kept of what was done and what was learned, and of nothing else:
the bytes that were sent and arrived, those that were read, those that writes
said they had accepted, those that the peer has got, and what the peer has asked
of writes.  `Lossless` is what it ought to show.
-/

namespace GroundLink

/-- One thing that is done at one of the ends. -/
inductive Doing
  | peer (a : Peer)
  | read (n : Nat)
  | write (bytes : Bytes)
  /-- The endpoint goes away. -/
  | drop
deriving Repr, DecidableEq

/-- What is learned from it at that end. -/
inductive Outcome
  | sent (arrived : Bool)
  | took (bytes : Bytes)
  | received (found : Received)
  | read (answer : Except Fault Bytes)
  | wrote (answer : Except Fault Nat)
  | done
  /-- Whoever has gone does nothing. -/
  | absent

/-- An endpoint with its peer, either of whom can go away. -/
class TwoEnded (ε : Type) extends Endpoint ε, Peered ε where
  peerGone : ε → Bool
  endpointGone : ε → Bool
  /-- What the peer learns from what it does. -/
  tell : ε → Peer → Outcome
  /-- The endpoint goes away; what it had not read is lost. -/
  dropEndpoint : ε → ε

/-- What the peer of a pipe learns. -/
def Pipe.tell (p : Pipe) : Peer → Outcome
  | .send bytes => .sent (p.send bytes).2
  | .takeWritten => .took p.takeWritten.2
  | .receive => .received p.receive.2
  | _ => .done

instance : TwoEnded Pipe where
  peerGone := Pipe.peerGone
  endpointGone := Pipe.endpointGone
  tell := Pipe.tell
  dropEndpoint := Pipe.dropEndpoint

namespace Parcels

variable (p : Parcels)

/-- What the peer learns; what was written is kept as in a stream. -/
def tell : Peer → Outcome
  | .send bytes => .sent (p.send bytes).2
  | .takeWritten => .took p.asPipe.takeWritten.2
  | .receive => .received p.asPipe.receive.2
  | _ => .done

/-- The endpoint goes away; what it had opened is lost, and what it had not. -/
def dropEndpoint : Parcels :=
  { p with endpointGone := true, opened := [], pieces := [] }

end Parcels

instance : TwoEnded Parcels where
  peerGone := Parcels.peerGone
  endpointGone := Parcels.endpointGone
  tell := Parcels.tell
  dropEndpoint := Parcels.dropEndpoint

/-! ## What has been done -/

/-- What has been done at the two ends, as they have learned it. -/
structure Ledger where
  /-- Sent by the peer, and there was someone to read it. -/
  sent : Bytes := []
  read : Bytes := []
  /-- Offered in a write that said it had taken so many. -/
  accepted : Bytes := []
  /-- What the peer has got of that. -/
  taken : Bytes := []
  failing : Bool := false
  limit : Option Nat := none
  peerLeft : Bool := false
  endpointLeft : Bool := false
deriving Repr, DecidableEq

namespace Ledger

variable (l : Ledger)

/-- One thing has been done, and this was learned. -/
def enter : Doing → Outcome → Ledger
  | .peer (.send bytes), .sent true => { l with sent := l.sent ++ bytes }
  | .peer .takeWritten, .took bytes => { l with taken := l.taken ++ bytes }
  | .peer .receive, .received (.bytes bytes) =>
      { l with taken := l.taken ++ bytes }
  | .peer (.failWrites fail), .done => { l with failing := fail }
  | .peer (.limitWrites limit), .done => { l with limit }
  | .peer .leave, .done => { l with peerLeft := true }
  | .read _, .read (.ok bytes) => { l with read := l.read ++ bytes }
  | .write bytes, .wrote (.ok n) =>
      { l with accepted := l.accepted ++ bytes.take n }
  | .drop, .done => { l with endpointLeft := true }
  | _, _ => l

/-- How many of `n` bytes one write is to pass on. -/
def passes (n : Nat) : Nat := l.limit.elim n (min n)

/-- That the peer has left is entered when it leaves, and nothing else is
entered so. -/
theorem peerLeft_enter (d : Doing) (r : Outcome) :
    (l.enter d r).peerLeft = true ↔ l.peerLeft = true ∨ d = .peer .leave ∧
    r = .done := by
  unfold enter
  split <;> simp_all

theorem endpointLeft_enter (d : Doing) (r : Outcome) :
    (l.enter d r).endpointLeft = true ↔ l.endpointLeft = true ∨ d = .drop ∧
    r = .done := by
  unfold enter
  split <;> simp_all

/-- Where nothing was done there is nothing to enter. -/
theorem enter_absent (d : Doing) : l.enter d .absent = l := by
  cases d with
  | peer a => cases a <;> rfl
  | _ => rfl

end Ledger

namespace TwoEnded

variable {ε : Type} [TwoEnded ε]

/-- Whether the one who would do this has gone. -/
def gone (p : ε) : Doing → Bool
  | .peer _ => peerGone p
  | _ => endpointGone p

/-- What one thing does, and what is learned from it. -/
def effect (p : ε) : Doing → ε × Outcome
  | .peer a => (Peered.after p a, tell p a)
  | .read n => ((Endpoint.read p n).1, .read (Endpoint.read p n).2)
  | .write bytes =>
      ((Endpoint.write p bytes).1, .wrote (Endpoint.write p bytes).2)
  | .drop => (dropEndpoint p, .done)

/-- Does one thing, if whoever is to do it is there. -/
def perform (p : ε) (d : Doing) : ε × Outcome :=
  if gone p d then (p, .absent) else effect p d

theorem perform_gone {p : ε} {d : Doing} (h : gone p d = true) :
    perform p d = (p, .absent) :=
  if_pos h

theorem perform_here {p : ε} {d : Doing} (h : gone p d = false) :
    perform p d = effect p d :=
  if_neg (Bool.eq_false_iff.mp h)

/-- One thing more is done. -/
def record (x : ε × Ledger) (d : Doing) : ε × Ledger :=
  ((perform x.1 d).1, x.2.enter d (perform x.1 d).2)

/-- A new pair and its ledger, after one thing after the other. -/
def course (doings : List Doing) : ε × Ledger :=
  doings.foldl record (Peered.new, {})

theorem course_concat (doings : List Doing) (d : Doing) :
    (course (doings ++ [d]) : ε × Ledger) = record (course doings) d := by
  simp [course]

end TwoEnded

open TwoEnded in
/-- **A pair of lossless streams**, with what the ledger has of it. -/
structure Lossless {ε : Type} [TwoEnded ε] (p : ε) (l : Ledger) : Prop where
  read_prefix : l.read <+: l.sent
  taken_prefix : l.taken <+: l.accepted
  /-- What is sent arrives as long as there is someone to read it. -/
  sends : l.peerLeft = false → ∀ bytes : Bytes,
    (perform p (.peer (.send bytes))).2 = .sent !l.endpointLeft
  /-- A read gives what comes next, as much as there is or as was asked for; it
  fails once everything has been read and the peer has left, and not before. -/
  reads : l.endpointLeft = false → ∀ n, 0 < n →
    if l.peerLeft = true ∧ l.read = l.sent then
      (perform p (.read n)).2 = .read (.error .unexpectedEof)
    else
      ∃ bytes, (perform p (.read n)).2 = .read (.ok bytes) ∧
        bytes.length = min n (l.sent.length - l.read.length) ∧
        l.read ++ bytes <+: l.sent
  /-- Who takes everything has everything. -/
  takes : l.peerLeft = false →
    ∃ bytes, (perform p (.peer .takeWritten)).2 = .took bytes ∧
      l.taken ++ bytes = l.accepted
  /-- A write passes on as much as the limit lets through and says so, or it
  fails. -/
  writes : l.endpointLeft = false → ∀ data : Bytes,
    (perform p (.write data)).2 = .wrote
      (if l.failing = true ∨ l.peerLeft = true ∧ 0 < l.passes data.length then
        .error .brokenPipe
      else .ok (l.passes data.length))

end GroundLink
