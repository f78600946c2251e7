import GroundLink.Proofs.Channel.Delivery

/-!
# Where published bytes go

Of the bytes that are published while a channel is active, the channel takes in
as many as it has room for, the first first, and refuses the rest.  What it has
taken in waits, until it is handed out or the channel is given back with bytes
still waiting, which are thrown away then.  `offered`, `taken`, `refused`,
`handed` and `discarded` say for one request which bytes these are, and `stream`
puts them together for a run of requests.  None of them looks at a counter.

* `Pool.Sound.publishes` — publishing, on every channel at once, each by its own
  room;
* `flow_perform` — taken bytes go behind those that wait, handed and discarded
  bytes come from the front, and no other request changes what waits;
* `enqueued_perform`, `dequeued_perform`, `dropped_perform` — what is counted.

Over a run of requests to a new downlink these add up to
`Downlink.Conserves`.
-/

namespace GroundLink

/-- How many bytes the slot takes in now: none while it is inactive. -/
def Slot.room (s : Slot) : Nat := if s.active then s.queue.free else 0

/-- The slot accepts the longest beginning that there is room for. -/
theorem Slot.Sound.accepted_eq {s : Slot} (h : s.Sound) (bs : Bytes) :
    s.accepted bs = bs.take s.room := by
  unfold Slot.accepted Slot.offer Slot.room
  cases hactive : s.active with
  | false => simp
  | true =>
      have hcount := h.queue.push_count bs
      simp only [if_true, Nat.add_sub_cancel_left, hcount]
      rw [Nat.min_comm, ← List.take_eq_take_min]

namespace Pool

/-- How many bytes channel `i` takes in now. -/
def room (p : Pool) (i : Nat) : Nat := (p.slots[i]?.map Slot.room).getD 0

/-- Bytes that channel `i` has taken in since the pool was made. -/
def enqueued (p : Pool) (i : Nat) : Nat :=
  (p.slots[i]?.map Slot.enqueued).getD 0

/-- Bytes that channel `i` has handed out since the pool was made. -/
def dequeued (p : Pool) (i : Nat) : Nat :=
  (p.slots[i]?.map Slot.dequeued).getD 0

/-- From `p` to `p'`, `bytes` have been published.  Every active channel has
taken in as many as it had room for, and has counted these and the rest; an
inactive channel is as it was.  What a channel takes in is a matter of that
channel alone. -/
structure Publishes (bytes : Bytes) (p p' : Pool) : Prop where
  marks : p'.taken = p.taken
  capacity : p'.capacity = p.capacity
  active : ∀ (i : Nat) (s : Slot), p.slots[i]? = some s → s.active = true →
    ∃ queue : Queue, queue.toList = s.queue.toList ++ bytes.take
      (min bytes.length s.queue.free) ∧
    p'.slots[i]? = some { s with
      queue
      enqueued := s.enqueued + min bytes.length s.queue.free
      dropped := s.dropped + (bytes.length - min bytes.length s.queue.free) }
  inactive : ∀ (i : Nat) (s : Slot), p.slots[i]? = some s → s.active = false →
    p'.slots[i]? = some s

variable {p : Pool}

/-- What a channel takes is a prefix as long as its room. -/
theorem Sound.accepted_eq (h : p.Sound) (i : Nat) (bs : Bytes) :
    p.accepted i bs = bs.take (p.room i) := by
  unfold accepted room
  cases hs : p.slots[i]? with
  | none => simp
  | some s => exact (h.slots s (List.mem_of_getElem? hs)).accepted_eq bs

/-- **Publishing** is the same on every active channel, each by its own room. -/
theorem Sound.publishes (h : p.Sound) (bytes : Bytes) :
    p.Publishes bytes (p.publish bytes).1 where
  marks := rfl
  capacity := p.capacity_publish bytes
  active := by
    intro i s hs hactive
    have hqueue := (h.slots s (List.mem_of_getElem? hs)).queue
    refine ⟨(s.queue.push bytes).1, ?_, ?_⟩
    · rw [hqueue.toList_push, hqueue.push_count]
    · simp [Pool.publish, hs, Slot.offer, hactive, hqueue.push_count]
  inactive := by
    intro i s hs hactive
    simp [Pool.publish, hs, hactive]

/-- A sum over the channels, told by their numbers. -/
theorem sum_slots (p : Pool) (g : Slot → Nat) :
    (p.slots.map g).sum =
      ((List.range p.capacity).map fun i =>
        (p.slots[i]?.map g).getD 0).sum := by
  congr 1
  apply List.ext_getElem
  · simp [capacity]
  · intro i hi _
    have hlt : i < p.slots.length := by simpa using hi
    simp [hlt]

/-- The reports of all channels on refused bytes, put together. -/
theorem droppedBytes_eq (p : Pool) :
    p.droppedBytes = ((List.range p.capacity).map p.dropped).sum := by
  have hsum : p.droppedBytes = (p.slots.map Slot.dropped).sum := by
    unfold droppedBytes
    rw [List.sum_eq_foldl, List.foldl_map]
  rw [hsum, sum_slots]
  rfl

/-- The channels that are active, told by their numbers. -/
theorem countP_active (p : Pool) :
    p.slots.countP Slot.active = (List.range p.capacity).countP p.isActive := by
  have hflags :
      p.slots.map Slot.active = (List.range p.capacity).map p.isActive := by
    apply List.ext_getElem
    · simp [capacity]
    · intro i hi _
      have hlt : i < p.slots.length := by simpa using hi
      simp [isActive, hlt]
  have hcount := congrArg (List.countP id) hflags
  rw [List.countP_map, List.countP_map] at hcount
  exact hcount

/-- What anyone reads off a channel is its counters and how much waits. -/
theorem stats?_eq {i : Nat} (hi : i < p.capacity) :
    p.stats? i =
      some ⟨p.enqueued i, p.dequeued i, p.dropped i, p.queued i⟩ := by
  have hs : p.slots[i]? = some p.slots[i] := List.getElem?_eq_getElem hi
  simp [stats?, enqueued, dequeued, dropped, queued, hs]

/-- As many bytes are queued as wait. -/
theorem queued_eq (p : Pool) (i : Nat) : p.queued i = (p.waiting i).length := by
  unfold queued waiting
  cases p.slots[i]? with
  | none => rfl
  | some s => simp

end Pool

namespace Downlink

/-! ## What one request does with bytes -/

/-- The bytes that a request publishes while channel `i` is active. -/
def offered (i : Nat) (d : Downlink) (op : Op) : Bytes :=
  if d.pool.isActive i then (d.outgoing op).getD [] else []

/-- What channel `i` has room for of what it is offered. -/
def taken (i : Nat) (d : Downlink) (op : Op) : Bytes :=
  (d.offered i op).take (d.pool.room i)

/-- The rest of what channel `i` is offered. -/
def refused (i : Nat) (d : Downlink) (op : Op) : Bytes :=
  (d.offered i op).drop (d.pool.room i)

/-- The bytes that a request is handed from channel `i`. -/
def handed (i : Nat) (d : Downlink) : Op → Bytes
  | .drain j n => if j = i then (d.pool.drain i n).2 else []
  | _ => []

/-- The bytes that wait on channel `i` when a request gives it back. -/
def discarded (i : Nat) (d : Downlink) : Op → Bytes
  | .release j =>
      if j = i ∧ d.pool.isOccupied i = true then d.pool.waiting i else []
  | .releaseClaim c =>
      if c.index = i ∧ d.pool.holds c = true then d.pool.waiting i else []
  | _ => []

/-- What `f` finds in the requests of a run, in their order. -/
def stream (f : Downlink → Op → Bytes) (d : Downlink) : List Op → Bytes
  | [] => []
  | op :: ops => f d op ++ stream f (d.perform op).1 ops

variable {d : Downlink} {i : Nat} {op : Op}

/-- What is offered is taken up to a point, and refused from there on. -/
theorem taken_append_refused (i : Nat) (d : Downlink) (op : Op) :
    d.taken i op ++ d.refused i op = d.offered i op := List.take_append_drop _ _

/-- What a channel takes is what its counter says that it accepts. -/
theorem taken_eq_accepted (h : d.pool.Sound) (i : Nat) (op : Op) :
    d.taken i op = d.accepted i op := by
  unfold taken offered accepted
  cases hout : d.outgoing op with
  | none => simp
  | some bytes =>
      dsimp only
      rw [h.accepted_eq]
      cases hactive : d.pool.isActive i with
      | true => rfl
      | false =>
          have hroom : d.pool.room i = 0 := by
            unfold Pool.isActive at hactive
            unfold Pool.room Slot.room
            cases hs : d.pool.slots[i]? with
            | none => rfl
            | some s => simp_all
          simp [hroom]

/-- A request that sends nothing offers nothing. -/
theorem offered_of_not_outgoing (hout : d.outgoing op = none) :
    d.offered i op = [] := by
  unfold offered
  rw [hout]
  exact ite_self _

/-- Who publishes is handed nothing and gives nothing back. -/
theorem handed_of_outgoing {bytes : Bytes} (hout : d.outgoing op = some bytes) :
    d.handed i op = [] ∧ d.discarded i op = [] := by
  cases op with
  | drain j n => cases hout
  | release j => cases hout
  | releaseClaim c => cases hout
  | _ => exact ⟨rfl, rfl⟩

/-- The answer to a request that publishes. -/
theorem reached_of_outgoing {bytes : Bytes}
    (hout : d.outgoing op = some bytes) :
    (d.perform op).2 = .reached (d.pool.slots.countP Slot.active) := by
  cases op with
  | sendStatusText severity text =>
      cases hm : Message.statusText? severity text with
      | none => simp [outgoing, hm] at hout
      | some m =>
          simp [perform, sendStatusText, Publisher.sendStatusText,
            Publisher.send, hm, Pool.publish]
  | publish bytes => rfl
  | sendFrame frame => rfl
  | send component m => rfl
  | sendHeartbeat component hb => rfl
  | _ => cases hout

/-! ## What is counted -/

/-- What a request makes of a counter that only publishing moves. -/
theorem count_perform_of_quiet (h : d.pool.Sound) (hout : d.outgoing op = none)
    (g : Slot → Nat) (hg : ∀ j s s', s.Became op j s' → g s' = g s) (i : Nat) :
    ((d.perform op).1.pool.slots[i]?.map g).getD 0 =
      (d.pool.slots[i]?.map g).getD 0 := by
  obtain ⟨j, f, hslots, hbecame⟩ := slots_perform h hout
  rw [← List.getElem?_map, ← List.getElem?_map, hslots,
    Pool.map_modify_of_eq fun s hs => hg j s (f s) (hbecame s hs)]

/-- The bytes that a channel takes are counted, whatever the request. -/
theorem enqueued_perform (h : d.pool.Sound) (op : Op) (i : Nat) :
    (d.perform op).1.pool.enqueued i =
      d.pool.enqueued i + (d.taken i op).length := by
  cases hout : d.outgoing op with
  | none =>
      rw [taken, offered_of_not_outgoing hout, List.take_nil]
      exact count_perform_of_quiet h hout Slot.enqueued
        (fun _ _ _ hbecame => by cases hbecame <;> rfl) i
  | some bytes =>
      rw [pool_perform_of_outgoing hout, taken_eq_accepted h, accepted, hout]
      unfold Pool.enqueued Pool.accepted Pool.publish
      rw [List.getElem?_map]
      cases hs : d.pool.slots[i]? with
      | none => rfl
      | some s =>
          have hle := s.queue.push_le bytes
          simp only [Option.map_some, Option.getD_some, Slot.accepted,
            Slot.offer]
          split
          · simp only [List.length_take]
            omega
          · simp

/-- The bytes that a channel refuses are counted, whatever the request. -/
theorem dropped_perform (h : d.pool.Sound) (op : Op) (i : Nat) :
    (d.perform op).1.pool.dropped i =
      d.pool.dropped i + (d.refused i op).length := by
  cases hout : d.outgoing op with
  | none =>
      rw [refused, offered_of_not_outgoing hout, List.drop_nil]
      exact count_perform_of_quiet h hout Slot.dropped
        (fun _ _ _ hbecame => by cases hbecame <;> rfl) i
  | some bytes =>
      rw [pool_perform_of_outgoing hout, refused, offered, hout]
      unfold Pool.dropped Pool.publish Pool.isActive Pool.room
      rw [List.getElem?_map]
      cases hs : d.pool.slots[i]? with
      | none => rfl
      | some s =>
          have hqueue := (h.slots s (List.mem_of_getElem? hs)).queue
          have hcount := hqueue.push_count bytes
          simp only [Option.map_some, Option.getD_some, Slot.offer, Slot.room]
          split
          · simp only [List.length_drop]
            omega
          · rfl

/-- The bytes that a channel hands out are counted, whatever the request. -/
theorem dequeued_perform (h : d.pool.Sound) (op : Op) (i : Nat) :
    (d.perform op).1.pool.dequeued i =
      d.pool.dequeued i + (d.handed i op).length := by
  by_cases hdrain : ∃ j n, op = .drain j n
  · obtain ⟨j, n, rfl⟩ := hdrain
    have hpool : (d.perform (.drain j n)).1.pool = (d.pool.drain j n).1 := rfl
    simp only [hpool, Pool.drain_eq, Pool.dequeued, handed,
      Pool.getElem?_modify]
    split
    · next hji =>
        subst hji
        unfold Pool.drain
        cases d.pool.slots[j]? with
        | none => rfl
        | some s => rfl
    · rfl
  · -- nothing else hands bytes out
    have hnone : d.handed i op = [] := by
      cases op with
      | drain j n => exact absurd ⟨j, n, rfl⟩ hdrain
      | _ => rfl
    rw [hnone]
    cases hout : d.outgoing op with
    | none =>
        refine count_perform_of_quiet h hout Slot.dequeued ?_ i
        intro j s s' hbecame
        cases hbecame with
        | drained hop => exact absurd ⟨_, _, hop⟩ hdrain
        | _ => rfl
    | some bytes =>
        rw [pool_perform_of_outgoing hout]
        unfold Pool.dequeued Pool.publish
        rw [List.getElem?_map]
        cases d.pool.slots[i]? with
        | none => rfl
        | some s =>
            simp only [Option.map_some, Option.getD_some, Slot.offer]
            split <;> rfl

/-! ## What waits -/

/-- What waits on a channel after it or another one has been given back. -/
theorem waiting_free (p : Pool) (i j : Nat) (generation : Option Nat) :
    (p.free j generation).1.waiting i =
      if j = i ∧ p.isFreeable j generation = true then [] else p.waiting i := by
  rw [Pool.free_eq]
  by_cases hfree : p.isFreeable j generation = true
  · rw [if_pos hfree]
    have hslots : ((p.modify j Slot.vacate).unmark j).slots =
        (p.modify j Slot.vacate).slots := rfl
    unfold Pool.waiting
    rw [hslots, Pool.getElem?_modify]
    by_cases hji : j = i
    · subst hji
      rw [if_pos rfl, if_pos ⟨rfl, hfree⟩]
      cases p.slots[j]? with
      | none => rfl
      | some s => exact Queue.toList_reset s.queue
    · rw [if_neg hji, if_neg (fun hboth => hji hboth.1)]
  · rw [if_neg hfree, if_neg (fun hboth => hfree hboth.2)]

/-- **What a request does to the bytes of a channel.**  What it takes goes
behind those that wait; what it hands out or throws away comes from the front;
any other leaves them. -/
theorem flow_perform (h : d.pool.Sound) (op : Op) (i : Nat) :
    d.handed i op ++ d.discarded i op ++ (d.perform op).1.pool.waiting i =
      d.pool.waiting i ++ d.taken i op := by
  rw [taken_eq_accepted h, accepted, pool_perform]
  cases hout : d.outgoing op with
  | some bytes =>
      obtain ⟨hhanded, hdiscarded⟩ := handed_of_outgoing (i := i) hout
      rw [hhanded, hdiscarded]
      exact h.waiting_publish bytes i
  | none =>
      rw [List.append_nil]
      cases op with
      | claim => exact h.waiting_claim i
      | release j =>
          simp only [handed, discarded, Pool.release, List.nil_append,
            waiting_free, Pool.isFreeable_none]
          split
          · next hgone =>
              obtain ⟨rfl, hocc⟩ := hgone
              rw [if_pos ⟨rfl, hocc⟩, List.append_nil]
          · next hkept =>
              rw [if_neg]
              · rfl
              · rintro ⟨rfl, hocc⟩
                exact hkept ⟨rfl, hocc⟩
      | releaseClaim c =>
          simp only [handed, discarded, Pool.releaseClaim, List.nil_append,
            waiting_free, Pool.isFreeable_claim]
          split
          · rw [List.append_nil]
          · rfl
      | setOwner j name => exact d.pool.waiting_setOwner j name i
      | setActive j active => exact d.pool.waiting_setActive j active i
      | setClaimActive c active =>
          exact d.pool.waiting_setClaimActive c active i
      | drain j n =>
          simp only [handed, discarded, List.append_nil]
          split
          · next hji =>
              subst hji
              exact (h.waiting_drain j n).symm
          · next hji => exact d.pool.waiting_drain_of_ne n hji
      | publish bytes => cases hout
      | sendFrame frame => cases hout
      | send component m => cases hout
      | sendHeartbeat component hb => cases hout
      | sendStatusText severity text => rfl

/-! ## Over a run of requests -/

/-- **Counters add up.**  A counter that moves by so many bytes with every
request moves by so many bytes with a run of requests. -/
theorem count_run (count : Pool → Nat) (f : Downlink → Op → Bytes)
    (step : ∀ {d : Downlink}, d.pool.Sound → ∀ op,
      count (d.perform op).1.pool = count d.pool + (f d op).length)
    (h : d.pool.Sound) (ops : List Op) :
    count (d.run ops).pool = count d.pool + (d.stream f ops).length := by
  induction ops generalizing d with
  | nil => rfl
  | cons op ops ih =>
      rw [run_cons, ih (sound_perform h op), step h op, stream,
        List.length_append, Nat.add_assoc]

/-- What waited and what was taken has been handed out, or thrown away, or
waits. -/
theorem queued_run (h : d.pool.Sound) (ops : List Op) (i : Nat) :
    d.pool.queued i + (d.stream (taken i) ops).length =
      (d.stream (handed i) ops).length + (d.run ops).pool.queued i +
        (d.stream (discarded i) ops).length := by
  induction ops generalizing d with
  | nil => simp [stream]
  | cons op ops ih =>
      have hrest := ih (sound_perform h op)
      have hfirst := congrArg List.length (flow_perform h op i)
      simp only [List.length_append, ← Pool.queued_eq] at hfirst
      simp only [stream, run_cons, List.length_append]
      omega

/-- What was offered in a run was taken or refused. -/
theorem length_offered_run (d : Downlink) (ops : List Op) (i : Nat) :
    (d.stream (offered i) ops).length =
      (d.stream (taken i) ops).length + (d.stream (refused i) ops).length := by
  induction ops generalizing d with
  | nil => rfl
  | cons op ops ih =>
      have hfirst := congrArg List.length (taken_append_refused i d op)
      rw [List.length_append] at hfirst
      simp only [stream, List.length_append, ih]
      omega

/-- Whoever holds a channel after a request has not lost a byte by it. -/
theorem discarded_of_holds {c : Claim}
    (held : (d.perform op).1.pool.holds c = true) :
    d.discarded c.index op = [] := by
  cases op with
  | release j =>
      refine if_neg ?_
      rintro ⟨rfl, hocc⟩
      have hfree : d.pool.isFreeable c.index none = true := by
        rwa [Pool.isFreeable_none]
      have hpool : (d.perform (.release c.index)).1.pool =
          (d.pool.free c.index none).1 := rfl
      rw [hpool, Pool.free_eq, if_pos hfree, d.pool.holds_vacated c] at held
      cases held
  | releaseClaim a =>
      refine if_neg ?_
      rintro ⟨hindex, held'⟩
      have hfree : d.pool.isFreeable c.index (some a.generation) = true := by
        rwa [← hindex, Pool.isFreeable_claim]
      have hpool : (d.perform (.releaseClaim a)).1.pool =
          (d.pool.free c.index (some a.generation)).1 := by rw [← hindex]; rfl
      rw [hpool, Pool.free_eq, if_pos hfree, d.pool.holds_vacated c] at held
      cases held
  | _ => rfl

/-- **One occupation.**  As long as a claim holds its channel, what it has been
handed and what waits are what waited when it got it and what was taken since,
in that order. -/
theorem flow_run {c : Claim} (h : d.pool.Sound) (hissued : d.pool.Issued c)
    {ops : List Op} (held : (d.run ops).pool.holds c = true) :
    d.stream (handed c.index) ops ++ (d.run ops).pool.waiting c.index =
      d.pool.waiting c.index ++ d.stream (taken c.index) ops := by
  induction ops generalizing d with
  | nil => simp [stream]
  | cons op ops ih =>
      have hsound := sound_perform h op
      have hissued' : (d.perform op).1.pool.Issued c :=
        hissued.of_later (later_perform h op)
      -- a claim that was lost on the way would not hold its channel at the end
      have hnow : (d.perform op).1.pool.holds c = true := by
        by_contra hlost
        have hstale : (d.perform op).1.pool.Stale c :=
          ⟨hissued', by simpa using hlost⟩
        have hnever := (hstale.of_later (later_run hsound ops)).2
        rw [run_cons] at held
        rw [held] at hnever
        cases hnever
      have hfirst := flow_perform h op c.index
      rw [discarded_of_holds hnow, List.append_nil] at hfirst
      rw [stream, stream, run_cons, List.append_assoc, ih hsound hissued' held,
        ← List.append_assoc, hfirst, List.append_assoc]

/-- A claim that is handed out has been issued, on a channel without bytes. -/
theorem issued_of_claim (h : d.pool.Sound) {c : Claim}
    (hc : (d.perform .claim).2.claim? = some c) :
    (d.perform .claim).1.pool.Issued c ∧
    (d.perform .claim).1.pool.waiting c.index = [] := by
  have htakes : d.pool.Takes c d.pool.claim.1 := h.takes hc
  obtain ⟨s, _, ⟨_, hempty, _⟩, _, hs⟩ := htakes.slot
  refine ⟨⟨_, hs, Nat.le_refl _⟩, ?_⟩
  have hpool : (d.perform .claim).1.pool = d.pool.claim.1 := rfl
  simpa [hpool, Pool.waiting, hs] using hempty

/-! ## From the first request on -/

/-- Where all bytes have gone, after requests to a new downlink with so many
channels. -/
structure Conserves (channels : Nat) (d : Downlink) (ops : List Op) : Prop where
  /-- Whatever is published next reaches every active channel, is taken in there
  as far as there is room, and changes nothing else. -/
  published : ∀ op bytes, (d.run ops).outgoing op = some bytes →
    (d.run ops).pool.Publishes bytes ((d.run ops).perform op).1.pool ∧
      ((d.run ops).perform op).2 =
        .reached ((List.range channels).countP (d.run ops).pool.isActive)
  /-- All that was published while a channel was active is counted on it, and
  all that it has taken in was handed out, waits, or was thrown away when the
  channel was given back. -/
  settled : ∀ i < channels, ∃ stats, (d.run ops).pool.stats? i = some stats ∧
    stats.enqueued + stats.dropped = (d.stream (offered i) ops).length ∧
    stats.enqueued = stats.dequeued + stats.queued +
      (d.stream (discarded i) ops).length ∧
    stats.enqueued = (d.stream (taken i) ops).length ∧
    stats.dequeued = (d.stream (handed i) ops).length ∧
    stats.dropped = (d.stream (refused i) ops).length
  /-- What the holder of a channel has been handed, and what waits for it, are
  the bytes that were taken in since it got the channel, in the order in which
  they were published. -/
  occupation : ∀ before c during, ops = before ++ .claim :: during →
    ((d.run before).perform .claim).2.claim? = some c →
    (d.run ops).pool.holds c = true →
    ((d.run before).perform .claim).1.stream (handed c.index) during ++
        (d.run ops).pool.waiting c.index =
      ((d.run before).perform .claim).1.stream (taken c.index) during
  /-- No counter ever goes back. -/
  grows : ∀ more i stats stats', (d.run ops).pool.stats? i = some stats →
    (d.run (ops ++ more)).pool.stats? i = some stats' →
    stats.enqueued ≤ stats'.enqueued ∧ stats.dequeued ≤ stats'.dequeued ∧
      stats.dropped ≤ stats'.dropped
  /-- The pool reports what all channels have refused, together. -/
  reported : (d.run ops).pool.droppedBytes =
    ((List.range channels).map fun i => (d.stream (refused i) ops).length).sum

/-- A channel that is there has counters. -/
theorem index_of_stats? {p : Pool} {stats : ChannelStats}
    (h : p.stats? i = some stats) :
    i < p.capacity := by
  obtain ⟨s, hs, _⟩ := Option.map_eq_some_iff.mp h
  exact (List.getElem?_eq_some_iff.mp hs).1

/-- A new channel has counted nothing and holds nothing. -/
theorem counters_create? {channels queueCapacity : Nat} {p : Pool}
    (h : Pool.create? channels queueCapacity = some p) (i : Nat) :
    p.enqueued i = 0 ∧ p.dequeued i = 0 ∧ p.dropped i = 0 ∧ p.queued i = 0 := by
  unfold Pool.enqueued Pool.dequeued Pool.dropped Pool.queued
  cases hs : p.slots[i]? with
  | none => exact ⟨rfl, rfl, rfl, rfl⟩
  | some s =>
      have hmem := List.mem_of_getElem? hs
      unfold Pool.create? at h
      split at h
      · cases h
        cases hmem
      · obtain ⟨queue, hqueue, rfl⟩ := Option.map_eq_some_iff.mp h
        obtain rfl := List.eq_of_mem_replicate hmem
        have hempty := congrArg List.length (Queue.toList_empty? hqueue)
        rw [Queue.length_toList] at hempty
        exact ⟨rfl, rfl, rfl, hempty⟩

/-- A new downlink keeps account of all bytes over every run of requests. -/
theorem conserves_of_create? {channels queueCapacity : Nat}
    (hcreate : Pool.create? channels queueCapacity = some d.pool)
    (ops : List Op) :
    d.Conserves channels ops := by
  have hsound : d.pool.Sound := .create? hcreate
  have hnow : (d.run ops).pool.Sound := sound_run hsound ops
  have hcapacity : (d.run ops).pool.capacity = channels :=
    (capacity_run hsound ops).trans (Pool.capacity_create? hcreate)
  have hdropped (i : Nat) : (d.run ops).pool.dropped i =
      (d.stream (refused i) ops).length := by
    have hrun := count_run (·.dropped i) (refused i)
        (fun h op => dropped_perform h op i) hsound ops
    have hnew := (counters_create? hcreate i).2.2.1
    omega
  constructor
  case published =>
    intro op bytes hout
    refine ⟨?_, ?_⟩
    · rw [pool_perform_of_outgoing hout]
      exact hnow.publishes bytes
    · rw [reached_of_outgoing hout, Pool.countP_active, hcapacity]
  case settled =>
    intro i hi
    obtain ⟨henqueued, hdequeued, _, hqueued⟩ := counters_create? hcreate i
    have hin := count_run (·.enqueued i) (taken i)
        (fun h op => enqueued_perform h op i) hsound ops
    have hout := count_run (·.dequeued i) (handed i)
        (fun h op => dequeued_perform h op i) hsound
      ops
    have hflow := queued_run hsound ops i
    have hoffered := length_offered_run d ops i
    have hrefused := hdropped i
    refine ⟨_, Pool.stats?_eq (hcapacity.symm ▸ hi), ?_, ?_, ?_, ?_, ?_⟩
    all_goals
      dsimp only
      omega
  case occupation =>
    rintro before c during rfl hc held
    have hbefore : (d.run before).pool.Sound := sound_run hsound before
    obtain ⟨hissued, hempty⟩ := issued_of_claim hbefore hc
    rw [run_append, run_cons] at held ⊢
    have hflow := flow_run (sound_perform hbefore .claim) hissued held
    rwa [hempty, List.nil_append] at hflow
  case grows =>
    intro more i stats stats' hstats hstats'
    have hlt := index_of_stats? hstats
    have hlt' := index_of_stats? hstats'
    rw [Pool.stats?_eq hlt] at hstats
    rw [Pool.stats?_eq hlt'] at hstats'
    obtain rfl := Option.some.inj hstats
    obtain rfl := Option.some.inj hstats'
    rw [run_append]
    refine ⟨?_, ?_, ?_⟩
    · exact Nat.le.intro
        (count_run (·.enqueued i) (taken i)
          (fun h op => enqueued_perform h op i) hnow more).symm
    · exact Nat.le.intro
        (count_run (·.dequeued i) (handed i)
          (fun h op => dequeued_perform h op i) hnow more).symm
    · exact Nat.le.intro
        (count_run (·.dropped i) (refused i)
          (fun h op => dropped_perform h op i) hnow more).symm
  case reported =>
    rw [Pool.droppedBytes_eq, hcapacity]
    congr 1
    apply List.map_congr_left
    intro i _
    exact hdropped i

end Downlink

end GroundLink
