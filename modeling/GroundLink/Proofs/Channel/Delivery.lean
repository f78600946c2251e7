import GroundLink.Proofs.Channel.Flag
import GroundLink.Proofs.Channel.Ledger
import GroundLink.Proofs.Channel.Postbook
import GroundLink.Proofs.Wire.Partial

/-!
# From the senders to a decoder

Whatever the senders of a downlink send, in whatever order, comes out of an
active channel that has room for it, numbered in that order, and a decoder at
the other end gives it back: `Broadcast.mail_arrives`.  The way there has four
parts.

* The publisher counts letters and nothing else (`publisher_step`).
* Bytes that a channel takes in it takes in as a whole, unless its counter of
  refused bytes moves, and that never moves back (`accepted_of_dropped`,
  `dropped_le_perform`).
* What comes out of the channel and what still waits there are, together, the
  frames of the letters (`waiting_run`).
* A decoder that is fed the beginning of that gives back the frames that are
  there as a whole (`Decoder.pushAll_beginning`).
-/

namespace GroundLink

namespace Slot

variable {s : Slot}

/-- What a slot has dropped stays counted. -/
theorem dropped_le_offer (s : Slot) (bs : Bytes) :
    s.dropped ≤ (s.offer bs).dropped := by
  unfold offer
  split
  · exact Nat.le_add_right _ _
  · exact Nat.le_refl _

/-- An active slot that counts no refusal takes all. -/
theorem accepted_of_dropped (hactive : s.active = true) {bs : Bytes}
    (h : (s.offer bs).dropped = s.dropped) : s.accepted bs = bs := by
  have hle := s.queue.push_le bs
  unfold accepted
  simp only [offer, hactive, if_true] at h ⊢
  rw [List.take_of_length_le]
  omega

/-- No request takes a counted refusal back. -/
theorem Became.dropped {op : Downlink.Op} {i : Nat} {s' : Slot}
    (h : s.Became op i s') :
    s'.dropped = s.dropped := by
  cases h <;> rfl

end Slot

namespace Pool

/-- Bytes that channel `i` has refused since the pool was made. -/
def dropped (p : Pool) (i : Nat) : Nat := (p.slots[i]?.map Slot.dropped).getD 0

variable {p : Pool} {i : Nat}

/-- An active channel is there, with its slot. -/
theorem isActive_eq_true (h : p.isActive i = true) :
    ∃ s, p.slots[i]? = some s ∧ s.active = true := by
  unfold isActive at h
  cases hs : p.slots[i]? with
  | none => simp [hs] at h
  | some s => exact ⟨s, rfl, by simpa [hs] using h⟩

/-- An active channel is occupied. -/
theorem Sound.isOccupied_of_isActive (h : p.Sound)
    (hactive : p.isActive i = true) :
    p.isOccupied i = true := by
  obtain ⟨s, hs, hon⟩ := isActive_eq_true hactive
  rw [isOccupied_eq hs]
  by_contra hfree
  have hclean :=
    (h.slots s (List.mem_of_getElem? hs)).clean (by simpa using hfree)
  rw [hclean.1] at hon
  cases hon

/-- What has been dropped stays counted when more is published. -/
theorem dropped_le_publish (p : Pool) (bs : Bytes) (i : Nat) :
    p.dropped i ≤ (p.publish bs).1.dropped i := by
  unfold dropped publish
  rw [List.getElem?_map]
  cases p.slots[i]? with
  | none => exact Nat.le_refl _
  | some s => exact s.dropped_le_offer bs

/-- **An active channel that counts no refusal** takes all that is published. -/
theorem accepted_of_dropped (hactive : p.isActive i = true) {bs : Bytes}
    (h : (p.publish bs).1.dropped i = p.dropped i) : p.accepted i bs = bs := by
  obtain ⟨s, hs, hon⟩ := isActive_eq_true hactive
  simp only [dropped, publish, List.getElem?_map, hs, Option.map_some,
    Option.getD_some] at h
  simp only [accepted, hs, Option.map_some, Option.getD_some]
  exact Slot.accepted_of_dropped hon h

end Pool

namespace Downlink

variable {d : Downlink} {i : Nat}

/-- What has been dropped stays counted, whatever is asked for. -/
theorem dropped_le_perform (h : d.pool.Sound) (op : Op) (i : Nat) :
    d.pool.dropped i ≤ (d.perform op).1.pool.dropped i := by
  cases hout : d.outgoing op with
  | some bytes =>
      rw [pool_perform_of_outgoing hout]
      exact d.pool.dropped_le_publish bytes i
  | none =>
      obtain ⟨j, f, hslots, hbecame⟩ := slots_perform h hout
      apply Nat.le_of_eq
      unfold Pool.dropped
      rw [← List.getElem?_map, ← List.getElem?_map, hslots,
        Pool.map_modify_of_eq fun s hs => (hbecame s hs).dropped]

/-- Sending leaves the pool sound, letter after letter. -/
theorem sound_sendAll (h : d.pool.Sound) (letters : List Letter) :
    (d.sendAll letters).pool.Sound := by
  induction letters generalizing d with
  | nil => exact h
  | cons l letters ih =>
      exact ih (d := (d.send l.component l.message).1) (h.publish _)

/-- What has been dropped stays counted while letters are sent. -/
theorem dropped_le_sendAll (d : Downlink) (letters : List Letter) (i : Nat) :
    d.pool.dropped i ≤ (d.sendAll letters).pool.dropped i := by
  induction letters generalizing d with
  | nil => exact Nat.le_refl _
  | cons l letters ih =>
      have hfirst :
          d.pool.dropped i ≤ (d.send l.component l.message).1.pool.dropped i :=
        d.pool.dropped_le_publish _ i
      exact Nat.le_trans hfirst (ih _)

/-- **Letters are appended as frames** on an active channel that refuses none of
them. -/
theorem waiting_sendAll (h : d.pool.Sound) {k : Nat}
    (hnext : d.publisher.next = UInt8.ofNat k)
    (hactive : d.pool.isActive i = true) {letters : List Letter}
    (hdropped : (d.sendAll letters).pool.dropped i = d.pool.dropped i) :
    (d.sendAll letters).pool.waiting i =
      d.pool.waiting i ++ (Letter.frames d.publisher.system k letters).flatMap
        Frame.encode := by
  induction letters generalizing d k with
  | nil => simp [Letter.frames]
  | cons l letters ih =>
      let bytes := (l.frame d.publisher.system k).encode
      let d' := (d.send l.component l.message).1
      have hpool : d'.pool = (d.pool.publish bytes).1 := by
        simp [d', bytes, send, Publisher.send, Publisher.frame,
          Letter.frame, hnext]
      have hnext' : d'.publisher.next = UInt8.ofNat (k + 1) := by
        simp [d', send, Publisher.send, hnext, UInt8.ofNat_add]
      have hactive' : d'.pool.isActive i = true := by
        rw [hpool, Pool.isActive_publish, hactive]
      -- the counter moves neither here nor later
      have hfirst : d.pool.dropped i ≤ d'.pool.dropped i := by
        rw [hpool]
        exact d.pool.dropped_le_publish bytes i
      have hlater : d'.pool.dropped i ≤ (d'.sendAll letters).pool.dropped i :=
        dropped_le_sendAll d' letters i
      have hall : (d'.sendAll letters).pool.dropped i = d.pool.dropped i :=
        hdropped
      have hrest :=
        ih (d := d') (hpool ▸ h.publish bytes) hnext' hactive' (by omega)
      have htaken : d.pool.accepted i bytes = bytes := by
        apply Pool.accepted_of_dropped hactive
        rw [← hpool]
        omega
      have hone : d'.pool.waiting i = d.pool.waiting i ++ bytes := by
        rw [hpool, h.waiting_publish, htaken]
      rw [sendAll_cons, hrest, hone, Letter.frames, List.flatMap_cons,
        List.append_assoc]
      rfl

/-- A request that is not raw sends its letters, or it sends nothing. -/
theorem perform_eq_sendAll {op : Op} (hraw : op.isRaw = false) :
    (d.perform op).1 = d.sendAll (op.letters d.publisher.component) ∨
      op.letters d.publisher.component = [] ∧ d.outgoing op = none := by
  cases op with
  | publish bytes => cases hraw
  | sendFrame frame => cases hraw
  | send component m => exact Or.inl rfl
  | sendHeartbeat component hb => exact Or.inl rfl
  | sendStatusText severity text =>
      cases hm : Message.statusText? severity text with
      | none => exact Or.inr ⟨by simp [Op.letters, hm], by simp [outgoing, hm]⟩
      | some m =>
          apply Or.inl
          simp [Op.letters, hm, perform, sendStatusText,
            Publisher.sendStatusText, send]
  | _ => exact Or.inr ⟨rfl, rfl⟩

/-- What neither sends nor drains leaves alone what waits on an active
channel. -/
theorem waiting_perform_of_quiet (h : d.pool.Sound) {op : Op}
    (hout : d.outgoing op = none) (hdrain : ∀ n, op ≠ .drain i n)
    (hactive : (d.perform op).1.pool.isActive i = true) :
    (d.perform op).1.pool.waiting i = d.pool.waiting i := by
  have hocc := (sound_perform h op).isOccupied_of_isActive hactive
  have hheld := Pool.holds_current hocc
  have hwaiting := waiting_perform h (c := ⟨i, _⟩) hdrain hheld
  rw [accepted, hout, List.append_nil] at hwaiting
  exact hwaiting

end Downlink

namespace Broadcast

variable {b : Broadcast} {i k : Nat}

/-! ## One step -/

/-- Every step asks something of the downlink, or nothing. -/
theorem sound_step (h : b.downlink.pool.Sound) (s : Step) :
    (b.step s).1.downlink.pool.Sound := by
  rcases b.downlink_step s with ⟨op, _, heq⟩ | ⟨_, heq⟩
  · rw [heq]
    exact Downlink.sound_perform h op
  · rw [heq]
    exact Downlink.sound_sendAll h _

/-- What has been dropped stays counted, step by step. -/
theorem dropped_le_step (h : b.downlink.pool.Sound) (s : Step) (i : Nat) :
    b.downlink.pool.dropped i ≤ (b.step s).1.downlink.pool.dropped i := by
  rcases b.downlink_step s with ⟨op, _, heq⟩ | ⟨_, heq⟩
  · rw [heq]
    exact Downlink.dropped_le_perform h op i
  · rw [heq]
    exact Downlink.dropped_le_sendAll _ _ i

/-- **One step.**  What it hands out of an active channel and what waits there
afterwards are what waited there before and the frames of its letters. -/
theorem waiting_step (h : b.downlink.pool.Sound)
    (hnext : b.downlink.publisher.next = UInt8.ofNat k) {s : Step}
    (hraw : s.isRaw = false) (hbefore : b.downlink.pool.isActive i = true)
    (hafter : (b.step s).1.downlink.pool.isActive i = true)
    (hdropped : (b.step s).1.downlink.pool.dropped i =
      b.downlink.pool.dropped i) :
    b.handedOut i s ++ (b.step s).1.downlink.pool.waiting i =
      b.downlink.pool.waiting i ++
        (Letter.frames b.downlink.publisher.system k (b.letters s)).flatMap
          Frame.encode := by
  rcases b.downlink_step s with ⟨op, rfl, heq⟩ | ⟨hout, heq⟩
  · rw [heq] at hafter hdropped ⊢
    by_cases hdrain : ∃ n, op = .drain i n
    · -- the one request that takes from the channel; it sends nothing
      obtain ⟨n, rfl⟩ := hdrain
      have hwaiting := h.waiting_drain i n
      simpa [handedOut, step, Downlink.perform, letters, Downlink.Op.letters,
        Letter.frames]
        using hwaiting.symm
    · -- any other takes nothing, and appends its letters if it has some
      have hother : ∀ n, op ≠ .drain i n := fun n hop => hdrain ⟨n, hop⟩
      have hout : b.handedOut i (.ask op) = [] := by
        cases op with
        | drain j n =>
            have hji : j ≠ i := fun hji => hother n (by rw [hji])
            simp [handedOut, step, Downlink.perform, hji]
        | _ => rfl
      rw [hout, List.nil_append]
      rcases Downlink.perform_eq_sendAll (d := b.downlink) hraw with
          hsend | ⟨hnone, hquiet⟩
      · rw [hsend] at hdropped ⊢
        exact Downlink.waiting_sendAll h hnext hbefore hdropped
      · have hnone' : b.letters (.ask op) = [] := hnone
        rw [hnone', Downlink.waiting_perform_of_quiet h hquiet hother hafter]
        simp [Letter.frames]
  · rw [heq] at hdropped ⊢
    rw [hout, List.nil_append]
    exact Downlink.waiting_sendAll h hnext hbefore hdropped

/-! ## Many steps -/

/-- A broadcast leaves its pool sound. -/
theorem sound_run (h : b.downlink.pool.Sound) (steps : List Step) :
    (b.run steps).downlink.pool.Sound := by
  induction steps generalizing b with
  | nil => exact h
  | cons s steps ih => exact ih (sound_step h s)

/-- A run that has dropped nothing in the end has dropped nothing on the way. -/
theorem dropped_le_run (h : b.downlink.pool.Sound) (steps : List Step)
    (i : Nat) :
    b.downlink.pool.dropped i ≤ (b.run steps).downlink.pool.dropped i := by
  induction steps generalizing b with
  | nil => exact Nat.le_refl _
  | cons s steps ih =>
      exact Nat.le_trans (dropped_le_step h s i) (ih (sound_step h s))

/-- A channel that stays active is active now. -/
theorem isActive_of_staysActive {steps : List Step}
    (h : b.staysActive i steps = true) :
    b.downlink.pool.isActive i = true := by
  cases steps with
  | nil => exact h
  | cons s steps =>
      simp only [staysActive, Bool.and_eq_true] at h
      exact h.1

end Broadcast

namespace Letter

/-- The sequence numbers of more letters go on from those before. -/
theorem frames_append (system : UInt8) (k : Nat) (as bs : List Letter) :
    frames system k (as ++ bs) = frames system k as ++ frames system
      (k + as.length) bs := by
  induction as generalizing k with
  | nil => rfl
  | cons a as ih =>
      have hcount : k + (a :: as).length = k + 1 + as.length := by
        rw [List.length_cons]
        omega
      rw [List.cons_append, frames, frames, ih, hcount, List.cons_append]

/-- Every letter makes one frame. -/
theorem length_frames (system : UInt8) (k : Nat) (letters : List Letter) :
    (frames system k letters).length = letters.length := by
  induction letters generalizing k with
  | nil => rfl
  | cons l letters ih => simp [frames, ih]

/-- Frames of well-formed messages can be sent. -/
theorem sendable_frames {system : UInt8} {letters : List Letter}
    (h : ∀ l ∈ letters, l.message.WellFormed) (k : Nat) :
    ∀ f ∈ frames system k letters, f.Sendable := by
  induction letters generalizing k with
  | nil => simp [frames]
  | cons l letters ih =>
      intro f hf
      rcases List.mem_cons.mp hf with rfl | hf
      · exact ⟨h l List.mem_cons_self, fun hversion => by cases hversion⟩
      · exact ih (fun l' hl' => h l' (List.mem_cons_of_mem l hl')) (k + 1) f hf

end Letter

namespace Broadcast

variable {b : Broadcast} {i k : Nat}

/-- **Many steps.**  All that comes out of a channel that stays active and
refuses nothing, and what still waits there, are what waited there before and
the frames of all letters, numbered in their order. -/
theorem waiting_run (h : b.downlink.pool.Sound)
    (hnext : b.downlink.publisher.next = UInt8.ofNat k) {steps : List Step}
    (hraw : ∀ s ∈ steps, s.isRaw = false)
    (hactive : b.staysActive i steps = true)
    (hdropped : (b.run steps).downlink.pool.dropped i =
      b.downlink.pool.dropped i) :
    b.drained i steps ++ (b.run steps).downlink.pool.waiting i =
      b.downlink.pool.waiting i ++
        (Letter.frames b.downlink.publisher.system k (b.mail steps)).flatMap
          Frame.encode := by
  induction steps generalizing b k with
  | nil => simp [drained, mail, Letter.frames]
  | cons s steps ih =>
      simp only [staysActive, Bool.and_eq_true] at hactive
      obtain ⟨hbefore, hactive⟩ := hactive
      -- the counter of refusals stands still here and later
      have hfirst := dropped_le_step h s i
      have hlater := dropped_le_run (sound_step h s) steps i
      rw [run_cons] at hdropped
      have hpublisher := b.publisher_step s
      have hstep := waiting_step h hnext (hraw s List.mem_cons_self) hbefore
        (isActive_of_staysActive hactive) (by omega)
      have hnext' : (b.step s).1.downlink.publisher.next =
          UInt8.ofNat (k + (b.letters s).length) := by
        simp [hpublisher, Publisher.advance, hnext, UInt8.ofNat_add]
      have hrest := ih (sound_step h s) hnext'
          (fun s' hs' => hraw s' (List.mem_cons_of_mem s hs'))
        hactive (by omega)
      have hsystem : (b.step s).1.downlink.publisher.system =
          b.downlink.publisher.system := by
        rw [hpublisher]
        rfl
      rw [run_cons, drained, mail, List.append_assoc, hrest,
        ← List.append_assoc, hstep, hsystem, Letter.frames_append,
        List.flatMap_append, List.append_assoc]

end Broadcast

/-! ## What is sent is well formed -/

namespace Broadcast

/-- What is to be sent is well formed: messages of the dialect, and severities
that there are. -/
def Step.Typed : Step → Prop
  | .ask (.send _ m) => m.WellFormed
  | .ask (.sendHeartbeat _ hb) => hb.Known
  | .ask (.sendStatusText severity _) => severity ≤ 7
  | .advertise _ hb => hb.Known
  | _ => True

/-- Every beacon has a heartbeat that can be sent. -/
def Typed (b : Broadcast) : Prop :=
  ∀ beacon ∈ b.beacons, beacon.heartbeat.Known

variable {b : Broadcast}

/-- The letters of a step are well formed, those of beacons included. -/
theorem Typed.letters (h : b.Typed) {s : Step} (hs : s.Typed) :
    ∀ l ∈ b.letters s, l.message.WellFormed := by
  intro l hl
  cases s with
  | ask op =>
      cases op with
      | send component m =>
          obtain rfl := List.mem_singleton.mp hl
          exact hs
      | sendHeartbeat component hb =>
          obtain rfl := List.mem_singleton.mp hl
          exact Heartbeat.wellFormed_toMessage_iff.mpr hs
      | sendStatusText severity text =>
          simp only [Broadcast.letters, Downlink.Op.letters, Option.mem_toList,
            Option.map_eq_some_iff] at hl
          obtain ⟨m, hm, rfl⟩ := hl
          exact Message.wellFormed_statusText hs hm
      | _ => cases hl
  | add camera => cases hl
  | advertise j heartbeat => cases hl
  | round j =>
      cases hj : b.beacons[j]? with
      | none => simp [Broadcast.letters, hj] at hl
      | some beacon =>
          simp only [Broadcast.letters, hj, Option.map_some, Option.getD_some]
            at hl
          rcases List.mem_cons.mp hl with rfl | hl
          · exact Heartbeat.wellFormed_toMessage_iff.mpr
              (h beacon (List.mem_of_getElem? hj))
          · split at hl
            · obtain rfl := List.mem_singleton.mp hl
              exact Heartbeat.wellFormed_toMessage_iff.mpr
                Heartbeat.known_ofCamera
            · cases hl

/-- A new beacon starts with a heartbeat that can be sent, and no other is
ever advertised. -/
theorem Typed.step (h : b.Typed) {s : Step} (hs : s.Typed) :
    (b.step s).1.Typed := by
  cases s with
  | ask op => exact h
  | add camera =>
      intro beacon hbeacon
      rcases List.mem_append.mp hbeacon with hold | hnew
      · exact h beacon hold
      · obtain rfl := List.mem_singleton.mp hnew
        exact Heartbeat.known_ofAutopilot 0
  | advertise j heartbeat =>
      intro beacon hbeacon
      obtain ⟨m, hm⟩ := List.mem_iff_getElem?.mp hbeacon
      simp only [Broadcast.step, List.getElem?_modify, Option.map_eq_map,
        Option.map_eq_some_iff] at hm
      obtain ⟨old, hold, rfl⟩ := hm
      split
      · exact hs
      · exact h old (List.mem_of_getElem? hold)
  | round j =>
      have hsame : (b.step (.round j)).1.beacons = b.beacons := by
        cases hj : b.beacons[j]? <;> simp [Broadcast.step, hj]
      intro beacon hbeacon
      exact h beacon (hsame ▸ hbeacon)

/-- All letters of a run are well formed. -/
theorem Typed.mail (h : b.Typed) {steps : List Step}
    (hs : ∀ s ∈ steps, s.Typed) :
    ∀ l ∈ b.mail steps, l.message.WellFormed := by
  induction steps generalizing b with
  | nil => simp [Broadcast.mail]
  | cons s steps ih =>
      have hfirst := hs s List.mem_cons_self
      intro l hl
      rcases List.mem_append.mp hl with hl | hl
      · exact h.letters hfirst l hl
      · exact ih (h.step hfirst)
          (fun s' hs' => hs s' (List.mem_cons_of_mem s hs')) l hl

/-- The beacons have heartbeats that can be sent after any run. -/
theorem Typed.run (h : b.Typed) {steps : List Step}
    (hs : ∀ s ∈ steps, s.Typed) :
    (b.run steps).Typed := by
  induction steps generalizing b with
  | nil => exact h
  | cons s steps ih =>
      exact ih (h.step (hs s List.mem_cons_self)) fun s' hs' =>
        hs s' (List.mem_cons_of_mem s hs')

/-! ## From end to end -/

/-- A status text that is too long reaches nobody and changes nothing. -/
theorem step_of_long (b : Broadcast) (severity : UInt8) {text : String}
    (h : Message.maxStatusText < text.toUTF8.toList.length) :
    b.step (.ask (.sendStatusText severity text)) = (b, .reached 0) := by
  have hnone := Message.statusText?_of_long severity h
  simp [step, Downlink.perform,
    Downlink.sendStatusText_of_long _ severity text hnone]

/-- Any other is one letter in the publisher's own name. -/
theorem letters_of_short (b : Broadcast) (severity : UInt8) {text : String}
    (h : text.toUTF8.toList.length ≤ Message.maxStatusText) :
    b.letters (.ask (.sendStatusText severity text)) =
      [⟨b.downlink.publisher.component, ⟨Message.statusTextId, severity ::
        (text.toUTF8.toList ++
          List.replicate (Message.maxStatusText - text.toUTF8.toList.length)
            0)⟩⟩] := by
  simp only [letters, Downlink.Op.letters,
    Message.statusText?_of_short severity h, Option.map_some,
    Option.toList_some]

/-- **Whatever is sent arrives.**  Let a publisher be new, let anything happen
(`prior`), and let channel `i` have nothing waiting then.  Over `steps` in which
nobody publishes past the publisher, in which the channel stays active and in
which it refuses nothing,

* what comes out of the channel and what still waits there are together the
  frames of all letters of `steps`, in their order, in the publisher's name, and
  numbered on from the letters before, whoever sent them;
* a new decoder that is fed what has come out, in whatever calls, gives back a
  beginning of those frames: all that are there as a whole, and of the next it
  has collected what is there of it;
* if nothing waits any more, that is all of them, and nothing was lost or
  broken;
* the letters are those of the post book, byte for byte and no others: messages
  as they were handed in, all nine bytes of every heartbeat, in a round those of
  the heartbeat that the beacon was given last, and a camera's after it if there
  is one;
* a status text of more than fifty bytes reaches nobody and changes nothing, not
  even the number of the next letter; any other is one letter of the publisher's
  own component that holds its severity and all its bytes, filled up with
  zeros. -/
theorem mail_arrives {channels queueCapacity i : Nat} {d : Downlink}
    (hcreate : Pool.create? channels queueCapacity = some d.pool)
    (hnew : d.publisher.next = 0) {prior steps : List Step}
    (htyped : ∀ s ∈ prior ++ steps, s.Typed) {b : Broadcast}
    (hb : b = Broadcast.run { downlink := d } prior)
    (hempty : b.downlink.pool.waiting i = [])
    (hraw : ∀ s ∈ steps, s.isRaw = false)
    (hactive : b.staysActive i steps = true)
    (hdropped : (b.run steps).downlink.pool.dropped i =
      b.downlink.pool.dropped i)
    {calls : List Feed}
    (hcalls : calls.flatMap Feed.bytes = b.drained i steps) :
    let own := d.publisher.component
    let earlier := Broadcast.mail { downlink := d } prior
    let sent := Letter.frames d.publisher.system earlier.length (b.mail steps)
    let got := Decoder.feedAll {} calls
    b.drained i steps ++ (b.run steps).downlink.pool.waiting i =
        sent.flatMap Frame.encode ∧
      (∃ later, sent = got.2.flatten ++ later ∧
        b.drained i steps =
          got.2.flatten.flatMap Frame.encode ++ got.1.buffer ∧
        ∀ f ∈ later.head?, got.1.buffer.length < f.encode.length) ∧
      ((b.run steps).downlink.pool.waiting i = [] →
        got.2.flatten = sent ∧
          got.1 =
            { buffer := [], stats := { frames := (b.mail steps).length } }) ∧
      (∀ letters, Posted own [] prior letters ↔ letters = earlier) ∧
      (∀ letters,
        Posted own prior.reverse steps letters ↔ letters = b.mail steps) ∧
      ∀ severity text,
        if Message.maxStatusText < text.toUTF8.toList.length then
          (b.run steps).step (.ask (.sendStatusText severity text)) =
            (b.run steps, .reached 0)
        else (b.run steps).letters (.ask (.sendStatusText severity text)) =
          [⟨own, ⟨Message.statusTextId, severity :: (text.toUTF8.toList ++
            List.replicate
              (Message.maxStatusText - text.toUTF8.toList.length) 0)⟩⟩] := by
  intro own earlier sent got
  have hsound₀ : d.pool.Sound := .create? hcreate
  have hsound : b.downlink.pool.Sound := hb ▸ sound_run hsound₀ prior
  have hpublisher :
      b.downlink.publisher = d.publisher.advance earlier.length :=
    hb ▸ publisher_run { downlink := d } prior
  have hnext : b.downlink.publisher.next = UInt8.ofNat earlier.length := by
    simp [hpublisher, Publisher.advance, hnew]
  have hsystem : b.downlink.publisher.system = d.publisher.system := by
    rw [hpublisher]
    rfl
  have hflow : b.drained i steps ++ (b.run steps).downlink.pool.waiting i =
      sent.flatMap Frame.encode := by
    have hrun := waiting_run hsound hnext hraw hactive hdropped
    rwa [hempty, hsystem, List.nil_append] at hrun
  have hbeacons : b.Typed := by
    have hnone : Typed { downlink := d } := by simp [Typed]
    exact hb ▸ hnone.run fun s hs => htyped s (List.mem_append_left _ hs)
  have hletters :=
    hbeacons.mail fun s hs => htyped s (List.mem_append_right prior hs)
  have hsendable : ∀ f ∈ sent, f.Sendable :=
    Letter.sendable_frames hletters earlier.length
  have hcount : sent.length = (b.mail steps).length := Letter.length_frames ..
  have hown : b.downlink.publisher.component = own := by
    rw [hpublisher]
    rfl
  have hown' : (b.run steps).downlink.publisher.component = own := by
    rw [publisher_run]
    exact hown
  -- the book of what went before is kept on
  have hkept : Kept prior.reverse b := by
    have hrun := (Kept.start d).run prior
    rwa [List.append_nil, ← hb] at hrun
  obtain ⟨hbeginning, hend⟩ := Decoder.feedAll_beginning hsendable hflow hcalls
  rw [hcount] at hend
  refine ⟨hflow, hbeginning, hend, ?_, ?_, ?_⟩
  · intro letters
    exact (Kept.start d).posted_iff prior
  · intro letters
    rw [← hown]
    exact hkept.posted_iff steps
  · intro severity text
    split
    · next hlong => exact step_of_long _ severity hlong
    · next hshort =>
        rw [letters_of_short _ severity (Nat.le_of_not_lt hshort), hown']

/-- Channel 0 has been taken and used, and two beacons have been set up. -/
def warmUp : List Step :=
  [.ask .claim, .ask (.setActive 0 true), .ask (.sendStatusText 6 "up"),
    .ask (.drain 0 64), .add true, .add false]

/-- A vehicle that flies, in a mode of its own. -/
def inFlight : Heartbeat :=
  { customMode := 0x01020304, kind := 2, autopilot := 12, baseMode := 81 }

/-- Both beacons and the owner of the downlink send, and channel 0 is drained
now and then, once within a frame.  The second beacon is given two heartbeats
before its round. -/
def chatter : List Step :=
  [.round 0, .ask (.drain 0 5), .advertise 1 (.ofAutopilot 7),
    .advertise 1 inFlight,
    .ask (.sendStatusText 4
      "a status text that is longer than the air has room for"),
    .round 1, .ask (.drain 0 90), .ask (.sendStatusText 4 "low"),
    .ask (.drain 0 90)]

/-- One call with all that there is. -/
theorem flatMap_slice (bs : Bytes) :
    [Feed.slice bs].flatMap Feed.bytes = bs := List.append_nil bs

/-- Everything but the long text arrives, numbered on from the text that was
sent first. -/
theorem chatter_arrives :
    let b := Broadcast.run { downlink := .pair 64 } warmUp
    let got := Decoder.feedAll {} [.slice (b.drained 0 chatter)]
    Pool.create? 2 64 = some (Downlink.pair 64).pool ∧
      (∀ s ∈ warmUp ++ chatter, s.Typed) ∧
      b.downlink.pool.waiting 0 = [] ∧
      (∀ s ∈ chatter, s.isRaw = false) ∧ b.staysActive 0 chatter = true ∧
      (b.run chatter).downlink.pool.dropped 0 = b.downlink.pool.dropped 0 ∧
      (b.run chatter).downlink.pool.waiting 0 = [] ∧
      Posted 1 warmUp.reverse chatter
        [⟨1, ⟨0, [0, 0, 0, 0, 0, 0, 0, 4, 3]⟩⟩,
          ⟨100, ⟨0, [0, 0, 0, 0, 30, 8, 0, 4, 3]⟩⟩,
          ⟨1, ⟨0, [4, 3, 2, 1, 2, 12, 81, 4, 3]⟩⟩,
          ⟨1, ⟨253, 4 :: 108 :: 111 :: 119 :: List.replicate 47 0⟩⟩] ∧
      got.2.flatten =
        [⟨.v2, ⟨1, 1, 1⟩, ⟨0, [0, 0, 0, 0, 0, 0, 0, 4, 3]⟩⟩,
          ⟨.v2, ⟨1, 100, 2⟩, ⟨0, [0, 0, 0, 0, 30, 8, 0, 4, 3]⟩⟩,
          ⟨.v2, ⟨1, 1, 3⟩, ⟨0, [4, 3, 2, 1, 2, 12, 81, 4, 3]⟩⟩,
          ⟨.v2, ⟨1, 1, 4⟩,
            ⟨253, 4 :: 108 :: 111 :: 119 :: List.replicate 47 0⟩⟩] := by
  intro b got
  have hcreate : Pool.create? 2 64 = some (Downlink.pair 64).pool := rfl
  have hinFlight : inFlight.Known := ⟨by decide, by decide, by decide⟩
  have htyped : ∀ s ∈ warmUp ++ chatter, s.Typed := by
    simpa [warmUp, chatter, Step.Typed]
      using ⟨Heartbeat.known_ofAutopilot 7, hinFlight⟩
  have hempty : b.downlink.pool.waiting 0 = [] := by decide +kernel
  have hraw : ∀ s ∈ chatter, s.isRaw = false := by decide
  have hactive : b.staysActive 0 chatter = true := by decide +kernel
  have hdropped :
      (b.run chatter).downlink.pool.dropped 0 = b.downlink.pool.dropped 0 := by
    decide +kernel
  have hnothing : (b.run chatter).downlink.pool.waiting 0 = [] := by
    decide +kernel
  have hcalls : [Feed.slice (b.drained 0 chatter)].flatMap Feed.bytes =
      b.drained 0 chatter :=
    flatMap_slice _
  obtain ⟨_, _, hall, _, hposted, _⟩ :=
    mail_arrives hcreate rfl htyped rfl hempty hraw hactive hdropped hcalls
  refine ⟨hcreate, htyped, hempty, hraw, hactive, hdropped, hnothing, ?_, ?_⟩
  · apply (hposted _).mpr
    decide +kernel
  · rw [(hall hnothing).1]
    decide +kernel

end Broadcast

end GroundLink
