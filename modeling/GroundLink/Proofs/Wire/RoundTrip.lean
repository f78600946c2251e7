import GroundLink.Proofs.Wire.Reading

/-!
# Streams of frames

A stream is encoded frames with noise before, between and after them.  A decoder
that is fed the stream gives back the frames, in whatever calls the bytes come.

* `isComplete_bytes`, `not_isComplete_prefix` — the collected bytes are a whole
  frame when all of a packet is there, and not before;
* `reads_noise`, `reads_packet` — what one stretch of noise and one packet do to
  a decoder that is outside a frame, with the answer to each byte;
* `reads_stream` — the same of a whole stream, by induction over its segments;
* `feedAll_eq`, `feed_after` — the same in calls of one byte or many.

The answer to each byte of the stream is written out in `dueOf`: a frame comes
at the last byte of its encoding and at no other.
-/

namespace GroundLink

/-! ## Calls -/

/-- One call of the owner of a decoder: a byte, or a run of bytes. -/
inductive Feed
  | byte (b : UInt8)
  | slice (bs : Bytes)
deriving Repr, DecidableEq

/-- The bytes that a call hands over. -/
def Feed.bytes : Feed → Bytes
  | .byte b => [b]
  | .slice bs => bs

/-- How a frame that was collected counts: as a frame, or as an error if it
could not be read. -/
def DecoderStats.count (stats : DecoderStats) : Option Frame → DecoderStats
  | some _ => { stats with frames := stats.frames + 1 }
  | none => { stats with parseErrors := stats.parseErrors + 1 }

/-- Noise: no frame can begin in it. -/
def Quiet (noise : Bytes) : Prop := 0xFE ∉ noise ∧ 0xFD ∉ noise

instance (noise : Bytes) : Decidable (Quiet noise) :=
  inferInstanceAs (Decidable (_ ∧ _))

namespace Decoder

/-- Takes one call; the answer is the frames that its bytes complete. -/
def feed (d : Decoder) : Feed → Decoder × List Frame
  | .byte b => ((d.push b).1, (d.push b).2.toList)
  | .slice bs => d.pushAll bs

/-- Takes calls one after the other; the answers stand call by call. -/
def feedAll (d : Decoder) : List Feed → Decoder × List (List Frame)
  | [] => (d, [])
  | call :: rest =>
      (((d.feed call).1.feedAll rest).1,
        (d.feed call).2 :: ((d.feed call).1.feedAll rest).2)

/-- The answers to the bytes of a run, byte by byte. -/
def answers (d : Decoder) : Bytes → List (Option Frame)
  | [] => []
  | b :: rest => (d.push b).2 :: (d.push b).1.answers rest

theorem length_answers (d : Decoder) (bs : Bytes) :
    (d.answers bs).length = bs.length := by
  induction bs generalizing d with
  | nil => rfl
  | cons b rest ih => simp only [answers, List.length_cons, ih]

theorem answers_append (d : Decoder) (as bs : Bytes) :
    d.answers (as ++ bs) = d.answers as ++ (d.pushAll as).1.answers bs := by
  induction as generalizing d with
  | nil => rfl
  | cons a as ih => simp only [List.cons_append, answers, pushAll, ih]

/-- A run of bytes is answered with what its bytes are answered with. -/
theorem pushAll_answers (d : Decoder) (bs : Bytes) :
    (d.pushAll bs).2 = (d.answers bs).filterMap id := by
  induction bs generalizing d with
  | nil => rfl
  | cons b rest ih =>
      simp only [pushAll, answers, ih]
      cases (d.push b).2 <;> rfl

/-- **A call is a run of its bytes.** -/
theorem feed_eq (d : Decoder) (call : Feed) :
    d.feed call = d.pushAll call.bytes := by
  cases call with
  | byte b => simp [feed, Feed.bytes, pushAll]
  | slice bs => rfl

/-- **How a stream is cut into calls does not matter** for the decoder that is
left and for the frames that come of it. -/
theorem feedAll_eq (d : Decoder) (calls : List Feed) :
    (d.feedAll calls).1 = (d.pushAll (calls.flatMap Feed.bytes)).1 ∧
      (d.feedAll calls).2.flatten =
        (d.pushAll (calls.flatMap Feed.bytes)).2 := by
  induction calls generalizing d with
  | nil => exact ⟨rfl, rfl⟩
  | cons call rest ih =>
      obtain ⟨hleft, hframes⟩ := ih (d.feed call).1
      rw [List.flatMap_cons, pushAll_append]
      constructor
      · rw [feedAll, hleft, feed_eq]
      · rw [feedAll, List.flatten_cons, hframes, feed_eq]

/-- The answer to one of several calls is what its own bytes are answered with
in the whole stream. -/
theorem feed_after (d : Decoder) (before after : List Feed) (call : Feed) :
    ((d.feedAll before).1.feed call).2 =
      (((d.answers ((before ++ call :: after).flatMap Feed.bytes)).drop
        (before.flatMap Feed.bytes).length).take call.bytes.length).filterMap
          id := by
  obtain ⟨hleft, _⟩ := d.feedAll_eq before
  have hskip : (d.answers (before.flatMap Feed.bytes)).length =
      (before.flatMap Feed.bytes).length := length_answers _ _
  have hcall : ((d.feedAll before).1.answers call.bytes).length =
      call.bytes.length :=
    length_answers _ _
  rw [feed_eq, pushAll_answers, List.flatMap_append, List.flatMap_cons,
    answers_append, answers_append, ← hleft, List.drop_left' hskip,
    List.take_left' hcall]

/-! ## One stretch -/

/-- From `d` to `d'` over a run of bytes, with an answer to each byte. -/
structure Reads (d : Decoder) (bs : Bytes) (out : List (Option Frame))
    (d' : Decoder) : Prop where
  decoder : (d.pushAll bs).1 = d'
  answers : d.answers bs = out

theorem Reads.refl (d : Decoder) : d.Reads [] [] d := ⟨rfl, rfl⟩

theorem Reads.append {d d₁ d₂ : Decoder} {as bs : Bytes}
    {x y : List (Option Frame)} (ha : d.Reads as x d₁) (hb : d₁.Reads bs y d₂) :
    d.Reads (as ++ bs) (x ++ y) d₂ := by
  constructor
  · rw [pushAll_append, ha.decoder, hb.decoder]
  · rw [answers_append, ha.answers, ha.decoder, hb.answers]

theorem Reads.cons {d d₁ d₂ : Decoder} {b : UInt8} {bs : Bytes}
    {answer : Option Frame} {out : List (Option Frame)}
    (hb : d.push b = (d₁, answer)) (h : d₁.Reads bs out d₂) :
    d.Reads (b :: bs) (answer :: out) d₂ := by
  constructor
  · rw [pushAll, hb]
    exact h.decoder
  · rw [Decoder.answers, hb, h.answers]

/-- **Noise is thrown away** outside a frame. -/
theorem reads_noise {noise : Bytes} (h : Quiet noise) (stats : DecoderStats) :
    Reads { buffer := [], stats := stats } noise
      (List.replicate noise.length none)
      { buffer := []
        stats := { stats with discarded := stats.discarded + noise.length } } := by
  induction noise generalizing stats with
  | nil => exact .refl _
  | cons b rest ih =>
      obtain ⟨hfirst, hsecond⟩ := h
      rw [List.mem_cons, not_or] at hfirst hsecond
      have hstart : isStartByte b = false := by
        simp [isStartByte, Version.startByte, Ne.symm hfirst.1,
          Ne.symm hsecond.1]
      have hpush : push { buffer := [], stats := stats } b =
          ({ buffer := []
             stats := { stats with discarded := stats.discarded + 1 } },
            none) := by
        simp [push, hstart]
      have hrest :=
        ih ⟨hfirst.2, hsecond.2⟩ { stats with discarded := stats.discarded + 1 }
      have hcount : stats.discarded + (rest.length + 1) = stats.discarded + 1 +
          rest.length := by
        omega
      rw [List.length_cons, hcount, List.replicate_succ]
      exact .cons hpush hrest

variable {p : Packet}

/-- All of a packet is a whole frame. -/
theorem isComplete_bytes (p : Packet) : isComplete p.bytes = true := by
  rw [isComplete, p.announcedLength_bytes]
  simp

/-- **Less than all of a packet is not a whole frame.** -/
theorem not_isComplete_prefix {as bs : Bytes} (hsplit : as ++ bs = p.bytes)
    (hbs : bs ≠ []) :
    isComplete as = false := by
  rw [isComplete]
  cases has : announcedLength as with
  | none => rfl
  | some n =>
      have hall : announcedLength p.bytes = some n :=
        hsplit ▸ announcedLength_append has bs
      have hn : p.bytes.length = n :=
        Option.some.inj (p.announcedLength_bytes.symm.trans hall)
      have hlen := congrArg List.length hsplit
      have hpos := List.length_pos_iff.mpr hbs
      rw [List.length_append] at hlen
      have hlt : ¬n ≤ as.length := by omega
      simpa using hlt

/-- A packet begins with a start byte. -/
theorem isStartByte_bytes {b : UInt8} {bs : Bytes} (h : b :: bs = p.bytes) :
    isStartByte b = true := by
  have hb : b = p.version.startByte := (List.cons.inj h).1
  rw [hb]
  cases p.version <;> rfl

/-- What a decoder makes of a packet that it has collected. -/
theorem finish_bytes (p : Packet) (stats : DecoderStats) :
    finish { buffer := p.bytes, stats := stats } =
      ({ buffer := [], stats := stats.count p.frame? }, p.frame?) := by
  have hfind := p.find?_bytes []
  rw [List.append_nil] at hfind
  simp only [finish, p.leadingVersion_bytes, hfind]
  cases p.frame? <;> rfl

/-- **The rest of a packet is collected**, and nothing is answered before its
last byte, at which the frame comes if there is one. -/
theorem reads_rest {as bs : Bytes} (hsplit : as ++ bs = p.bytes) (hbs : bs ≠ [])
    (stats : DecoderStats) :
    Reads { buffer := as, stats := stats } bs
      (List.replicate (bs.length - 1) none ++ [p.frame?])
      { buffer := [], stats := stats.count p.frame? } := by
  induction bs generalizing as with
  | nil => exact absurd rfl hbs
  | cons b rest ih =>
      have hcollect : (as.isEmpty && ! isStartByte b) = false := by
        cases as with
        | nil => simp [isStartByte_bytes hsplit]
        | cons _ _ => rfl
      have hsplit' : (as ++ [b]) ++ rest = p.bytes := by
        rw [List.append_assoc]
        exact hsplit
      by_cases hrest : rest = []
      · -- the last byte
        subst hrest
        rw [List.append_nil] at hsplit'
        have hpush : push { buffer := as, stats := stats } b =
            ({ buffer := [], stats := stats.count p.frame? }, p.frame?) := by
          simp only [push, hcollect, Bool.false_eq_true, if_false, hsplit',
            isComplete_bytes, if_true, finish_bytes]
        exact .cons hpush (.refl _)
      · have hpush : push { buffer := as, stats := stats } b =
            ({ buffer := as ++ [b], stats := stats }, none) := by
          simp only [push, hcollect, Bool.false_eq_true, if_false,
            not_isComplete_prefix hsplit' hrest]
        have hpos := List.length_pos_iff.mpr hrest
        have hcount : (b :: rest).length - 1 = (rest.length - 1) + 1 := by
          rw [List.length_cons]
          omega
        rw [hcount, List.replicate_succ, List.cons_append]
        exact .cons hpush (ih hsplit' hrest)

/-- **A packet is read**, at its last byte. -/
theorem reads_packet (p : Packet) (stats : DecoderStats) :
    Reads { buffer := [], stats := stats } p.bytes
      (List.replicate (p.bytes.length - 1) none ++ [p.frame?])
      { buffer := [], stats := stats.count p.frame? } :=
  reads_rest (List.nil_append _) (List.cons_ne_nil _ _) stats

/-- **An encoded frame is read**, at its last byte. -/
theorem reads_encode {f : Frame} (h : f.Sendable) (stats : DecoderStats) :
    Reads { buffer := [], stats := stats } f.encode
      (List.replicate (f.encode.length - 1) none ++ [some f])
      { buffer := [], stats := { stats with frames := stats.frames + 1 } } := by
  have hreads := reads_packet h.packet stats
  rw [h.bytes_packet, h.frame?_packet] at hreads
  exact hreads

end Decoder

/-! ## Streams -/

/-- A frame on the wire, and the noise after it. -/
structure Segment where
  frame : Frame
  noise : Bytes
deriving Repr, DecidableEq

namespace Segment

/-- What the sender of the frame and the line put on the wire. -/
def bytes (s : Segment) : Bytes := s.frame.encode ++ s.noise

/-- The answer that is due at each byte: the frame at the last byte of its
encoding. -/
def due (s : Segment) : List (Option Frame) :=
  List.replicate (s.frame.encode.length - 1) none ++ [some s.frame] ++
    List.replicate s.noise.length none

/-- The frame can be sent, and no frame can begin in the noise. -/
structure Clean (s : Segment) : Prop where
  frame : s.frame.Sendable
  noise : Quiet s.noise

instance (s : Segment) : Decidable s.Clean :=
  decidable_of_iff (s.frame.Sendable ∧ Quiet s.noise)
    ⟨fun h => ⟨h.1, h.2⟩, fun h => ⟨h.frame, h.noise⟩⟩

end Segment

/-- A stream: noise, then the segments one after the other. -/
def stream (lead : Bytes) (segments : List Segment) : Bytes :=
  lead ++ segments.flatMap Segment.bytes

/-- The answer that is due at each byte of a stream. -/
def dueOf (lead : Bytes) (segments : List Segment) : List (Option Frame) :=
  List.replicate lead.length none ++ segments.flatMap Segment.due

/-- Bytes of a stream that belong to no frame. -/
def noiseOf (lead : Bytes) (segments : List Segment) : Nat :=
  lead.length + (segments.map fun s => s.noise.length).sum

namespace Decoder

theorem reads_segment {s : Segment} (h : s.Clean) (stats : DecoderStats) :
    Reads { buffer := [], stats := stats } s.bytes s.due
      { buffer := []
        stats := { stats with
          frames := stats.frames + 1
          discarded := stats.discarded + s.noise.length } } :=
  (reads_encode h.frame stats).append (reads_noise h.noise _)

theorem reads_segments {segments : List Segment} (h : ∀ s ∈ segments, s.Clean)
    (stats : DecoderStats) :
    Reads { buffer := [], stats := stats } (segments.flatMap Segment.bytes)
      (segments.flatMap Segment.due)
      { buffer := []
        stats := { stats with
          frames := stats.frames + segments.length
          discarded := stats.discarded +
            (segments.map fun s => s.noise.length).sum } } := by
  induction segments generalizing stats with
  | nil => exact .refl _
  | cons s rest ih =>
      have hs := reads_segment (h s List.mem_cons_self) stats
      have hrest :=
        ih (fun t ht => h t (List.mem_cons_of_mem s ht)) { stats with
        frames := stats.frames + 1
        discarded := stats.discarded + s.noise.length }
      have hall := hs.append hrest
      have hframes : stats.frames + (s :: rest).length =
          stats.frames + 1 + rest.length := by
        rw [List.length_cons]
        omega
      have hnoise :
          stats.discarded + ((s :: rest).map fun t => t.noise.length).sum =
          stats.discarded + s.noise.length +
            (rest.map fun t => t.noise.length).sum := by
        rw [List.map_cons, List.sum_cons]
        omega
      rw [List.flatMap_cons, List.flatMap_cons, hframes, hnoise]
      exact hall

/-- **A fresh decoder over a stream.** -/
theorem reads_stream {lead : Bytes} {segments : List Segment}
    (hlead : Quiet lead) (h : ∀ s ∈ segments, s.Clean) :
    Reads {} (stream lead segments) (dueOf lead segments)
      { buffer := []
        stats := {
          frames := segments.length
          parseErrors := 0
          discarded := noiseOf lead segments } } := by
  have hall := (reads_noise hlead {}).append (reads_segments h _)
  have hframes : ({} : DecoderStats).frames + segments.length =
      segments.length := Nat.zero_add _
  have hnoise : ({} : DecoderStats).discarded + lead.length = lead.length :=
    Nat.zero_add _
  rw [hnoise, hframes] at hall
  exact hall

/-- A silence holds no frame. -/
theorem frames_silence (n : Nat) :
    (List.replicate n (none : Option Frame)).filterMap id = [] :=
  List.filterMap_replicate_of_none rfl

/-- **Encoded frames are read** in their order, one right after the other. -/
theorem pushAll_frames {frames : List Frame} (h : ∀ f ∈ frames, f.Sendable)
    (stats : DecoderStats) :
    pushAll { buffer := [], stats := stats } (frames.flatMap Frame.encode) =
      ({ buffer := [],
         stats := { stats with frames := stats.frames + frames.length } },
        frames) := by
  induction frames generalizing stats with
  | nil => rfl
  | cons f frames ih =>
      have hreads := reads_encode (h f List.mem_cons_self) stats
      have hrest := ih (fun g hg => h g (List.mem_cons_of_mem f hg))
        { stats with frames := stats.frames + 1 }
      have hcount : stats.frames + (f :: frames).length =
          stats.frames + 1 + frames.length := by
        rw [List.length_cons]
        omega
      rw [List.flatMap_cons, pushAll_append, hreads.decoder, hrest,
        pushAll_answers, hreads.answers, List.filterMap_append,
        frames_silence, hcount]
      rfl

theorem frames_due (s : Segment) : s.due.filterMap id = [s.frame] := by
  rw [Segment.due, List.filterMap_append, List.filterMap_append, frames_silence,
    frames_silence]
  rfl

/-- The frames of a stream are due in their order. -/
theorem frames_dueOf (lead : Bytes) (segments : List Segment) :
    (dueOf lead segments).filterMap id = segments.map Segment.frame := by
  have hsegments : (segments.flatMap Segment.due).filterMap id =
      segments.map Segment.frame := by
    induction segments with
    | nil => rfl
    | cons s rest ih =>
        rw [List.flatMap_cons, List.filterMap_append, ih, frames_due]
        rfl
  rw [dueOf, List.filterMap_append, frames_silence, hsegments, List.nil_append]

/-- **Stream round trip.**  A fresh decoder that is fed a stream, in whatever
calls, gives back exactly the frames of the stream in their order.  It is
outside a frame afterwards, and has counted every frame, no error and all noise.
Every call is answered with the frames whose last byte it brings. -/
theorem stream_round_trip {lead : Bytes} {segments : List Segment}
    (hlead : Quiet lead) (h : ∀ s ∈ segments, s.Clean) {calls : List Feed}
    (hcut : calls.flatMap Feed.bytes = stream lead segments) :
    (feedAll {} calls).1 =
        { buffer := []
          stats := {
            frames := segments.length
            parseErrors := 0
            discarded := noiseOf lead segments } } ∧
      (feedAll {} calls).2.flatten = segments.map Segment.frame ∧
      ∀ before call after, calls = before ++ call :: after →
        ((feedAll {} before).1.feed call).2 =
          (((dueOf lead segments).drop (before.flatMap Feed.bytes).length).take
            call.bytes.length).filterMap id := by
  have hreads := reads_stream hlead h
  obtain ⟨hleft, hframes⟩ := feedAll_eq {} calls
  refine ⟨?_, ?_, ?_⟩
  · rw [hleft, hcut, hreads.decoder]
  · rw [hframes, hcut, pushAll_answers, hreads.answers, frames_dueOf]
  · intro before call after hcalls
    rw [feed_after {} before after call, ← hcalls, hcut, hreads.answers]

/-- A frame of each version: one with start bytes in its payload and its header
and with a zero that is not sent, and a heartbeat. -/
def exchange : List Segment :=
  [ { frame := ⟨.v2, ⟨1, 1, 0xFE⟩, ⟨42, [0xFD, 0]⟩⟩, noise := [0x33] },
    { frame := ⟨.v1, ⟨255, 190, 7⟩, Heartbeat.ofGroundStation.toMessage⟩,
      noise := [] } ]

/-- The exchange with some noise first: a run of bytes that ends within the
first frame, and the rest byte by byte. -/
def exchangeCalls : List Feed :=
  .slice ((stream [0x00, 0x11] exchange).take 9) ::
    ((stream [0x00, 0x11] exchange).drop 9).map .byte

/-- Both frames come back, the first without its zero on the wire. -/
theorem exchange_round_trip :
    Quiet [0x00, 0x11] ∧ (∀ s ∈ exchange, s.Clean) ∧
      exchangeCalls.flatMap Feed.bytes = stream [0x00, 0x11] exchange ∧
      (feedAll {} exchangeCalls).1 =
        { buffer := [],
          stats := { frames := 2, parseErrors := 0, discarded := 3 } } ∧
      (feedAll {} exchangeCalls).2.flatten = exchange.map Segment.frame := by
  have hlead : Quiet [0x00, 0x11] := by decide
  have hclean : ∀ s ∈ exchange, s.Clean := by decide +kernel
  have hcut : exchangeCalls.flatMap Feed.bytes =
      stream [0x00, 0x11] exchange := by
    decide +kernel
  obtain ⟨hleft, hframes, _⟩ := stream_round_trip hlead hclean hcut
  exact ⟨hlead, hclean, hcut, hleft, hframes⟩

end Decoder

end GroundLink
