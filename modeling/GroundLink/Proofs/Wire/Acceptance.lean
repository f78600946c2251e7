import GroundLink.Proofs.Dialect.GoodForm
import GroundLink.Proofs.Wire.RoundTrip

/-!
# What a decoder accepts

A decoder that is outside a frame takes any packet as a whole, whoever sent it
(`reads_any_packet`): it says nothing before the last byte, and there it gives
back the frame that the packet stands for, or counts one error if it stands for
none.

The other way round, over bytes of any kind, every frame that a decoder gives
back stands for a packet that it was fed (`pushAll_stems`).  The induction is
over the bytes with the collected ones before them: what is thrown away there is
a gap between two packets, and what is left of a collected run behind the packet
that was found in it belongs to the next gap.  Such a frame has come of reading,
so it is in good form and can be sent on as it is (`sendable_of_frame?`).
-/

namespace GroundLink

/-- **What stands for a packet can be sent.**  Its message has come of reading,
and the first version has one byte for its number. -/
theorem Packet.sendable_of_frame? {p : Packet} {f : Frame}
    (h : p.frame? = some f) :
    f.Sendable := by
  obtain ⟨hversion, _, hparse⟩ := p.frame?_eq_some_iff.mp h
  obtain ⟨hid, hgood⟩ := Message.wellFormed_of_parse hparse
  refine ⟨hgood, ?_⟩
  intro hfirst
  rw [hid]
  rw [hversion] at hfirst
  unfold Packet.version at hfirst
  unfold Packet.id
  cases hframing : p.framing with
  | v1 id =>
      have hlt : id.toNat < 256 := id.toNat_lt
      exact Nat.le_of_lt_succ hlt
  | v2 flags compat low middle high signature signed =>
      simp [hframing] at hfirst

namespace Decoder

/-! ## Packets are accepted -/

/-- **Any packet is read as a whole.**  It makes no difference whether an
encoded frame has these bytes: the flag bytes, the signature and the length of
the payload may be anything.  If the number of the message is in the dialect and
every enumerated field holds one of its values, then the frame with the version,
the header and the parsed message of the packet is the answer to its last byte
and counts as one frame.  Otherwise there is no answer, and one error counts.
No other byte has an answer, nothing stays collected, and nothing counts as
discarded. -/
theorem reads_any_packet (p : Packet) (stats : DecoderStats) :
    match Message.parse p.id p.payload with
    | .ok message =>
        (∃ k, Dialect.lookup p.id = some k ∧ k.Permits p.payload) ∧
          Reads { buffer := [], stats := stats } p.bytes
            (List.replicate (p.bytes.length - 1) none ++
              [some ⟨p.version, p.header, message⟩])
            { buffer := [], stats := { stats with frames := stats.frames + 1 } }
    | .error _ =>
        (¬∃ k, Dialect.lookup p.id = some k ∧ k.Permits p.payload) ∧
          Reads { buffer := [], stats := stats } p.bytes
            (List.replicate p.bytes.length none)
            { buffer := []
              stats := { stats with parseErrors := stats.parseErrors + 1 } } := by
  have hreads := reads_packet p stats
  have hiff := Message.exists_parse_iff p.id p.payload
  have hpos := p.length_bytes_pos
  unfold Packet.frame? at hreads
  split
  · next message hparse =>
      rw [hparse] at hreads
      exact ⟨hiff.mp ⟨message, hparse⟩, hreads⟩
  · next fault hparse =>
      rw [hparse] at hreads
      have hlength : p.bytes.length = p.bytes.length - 1 + 1 := by omega
      rw [hlength, List.replicate_succ']
      refine ⟨?_, hreads⟩
      rw [← hiff, hparse]
      simp

/-- A signed packet that no frame is encoded as: both flag bytes are set, and
there are two bytes too many in the payload. -/
def foreign : Packet where
  framing := .v2 0x81 7 42 0 0 (List.replicate 13 0xFD) rfl
  header := ⟨1, 1, 9⟩
  payload := [1, 0, 5, 6]
  length_le := by decide

/-- It is read all the same. -/
example : pushAll {} foreign.bytes =
    ({ buffer := [], stats := { frames := 1 } },
      [⟨.v2, ⟨1, 1, 9⟩, ⟨42, [1, 0]⟩⟩]) := by
  decide +kernel

/-! ## What is accepted are packets -/

/-- A packet in a run of bytes, with the frame that it stands for and the bytes
before it that belong to no frame. -/
structure Find where
  gap : Bytes
  packet : Packet
  frame : Frame
  stands : packet.frame? = some frame

/-- The bytes of the gap and of the packet. -/
def Find.bytes (x : Find) : Bytes := x.gap ++ x.packet.bytes

/-- The frames stand for packets that follow one another in the bytes. -/
def Stems (bs : Bytes) (frames : List Frame) : Prop :=
  ∃ (finds : List Find) (rest : Bytes),
    bs = finds.flatMap Find.bytes ++ rest ∧ frames = finds.map Find.frame

theorem Stems.nothing (bs : Bytes) : Stems bs [] := ⟨[], bs, rfl, rfl⟩

variable {bs : Bytes} {frames : List Frame}

/-- Bytes before the first packet belong to no frame. -/
theorem Stems.skip (h : Stems bs frames) (skipped : Bytes) :
    Stems (skipped ++ bs) frames := by
  obtain ⟨finds, rest, rfl, rfl⟩ := h
  cases finds with
  | nil => exact ⟨[], skipped ++ rest, rfl, rfl⟩
  | cons x finds =>
      refine ⟨{ x with gap := skipped ++ x.gap } :: finds, rest, ?_, rfl⟩
      simp only [List.flatMap_cons, Find.bytes, List.append_assoc]

theorem Stems.find (h : Stems bs frames) {p : Packet} {f : Frame}
    (hp : p.frame? = some f) :
    Stems (p.bytes ++ bs) (f :: frames) := by
  obtain ⟨finds, rest, rfl, rfl⟩ := h
  refine ⟨⟨[], p, f, hp⟩ :: finds, rest, ?_, rfl⟩
  simp only [List.flatMap_cons, Find.bytes, List.nil_append, List.append_assoc]

/-- **What one byte can do.**  It goes to the collected ones, of which some or
none are thrown away then; or they hold a packet, all of them go, and the answer
is the frame that the packet stands for. -/
theorem push_cases (d : Decoder) (b : UInt8) :
    (∃ thrown, d.buffer ++ [b] = thrown ++ (d.push b).1.buffer ∧
      (d.push b).2 = none) ∨
      ∃ (skipped : Bytes) (p : Packet) (more : Bytes) (f : Frame),
        d.buffer ++ [b] = skipped ++ (p.bytes ++ more) ∧ p.frame? = some f ∧
          (d.push b).1.buffer = [] ∧ (d.push b).2 = some f := by
  by_cases hquiet : (d.buffer.isEmpty && ! isStartByte b) = true
  · -- outside a frame
    have hempty : d.buffer = [] := by
      rw [Bool.and_eq_true, List.isEmpty_iff] at hquiet
      exact hquiet.1
    have hpush : d.push b =
        ({ d with
           stats := { d.stats with discarded := d.stats.discarded + 1 } },
          none) := by
      simp [push, hquiet]
    rw [hpush]
    exact Or.inl ⟨[b], by simp [hempty], rfl⟩
  · by_cases hcomplete : isComplete (d.buffer ++ [b]) = true
    · -- the last byte that was announced
      cases hfind :
        Frame.find? (leadingVersion (d.buffer ++ [b])) (d.buffer ++ [b]) with
      | none =>
          have hpush : d.push b =
              ({ buffer := [], stats := d.stats.count none }, none) := by
            simp [push, hquiet, hcomplete, finish, hfind, DecoderStats.count]
          rw [hpush]
          exact Or.inl ⟨d.buffer ++ [b], (List.append_nil _).symm, rfl⟩
      | some f =>
          have hpush : d.push b =
              ({ buffer := [], stats := d.stats.count (some f) }, some f) := by
            simp [push, hquiet, hcomplete, finish, hfind, DecoderStats.count]
          obtain ⟨skipped, p, more, hsplit, _, hframe⟩ :=
            exists_packet_of_find? hfind
          rw [hpush]
          exact Or.inr ⟨skipped, p, more, f, hsplit, hframe, rfl, rfl⟩
    · have hpush : d.push b = ({ d with buffer := d.buffer ++ [b] }, none) := by
        simp [push, hquiet, hcomplete]
      rw [hpush]
      exact Or.inl ⟨[], rfl, rfl⟩

/-- **Where frames come from.**  Whatever a decoder has collected and is fed
then, the frames that it gives back stand for packets that follow one another in
these bytes. -/
theorem pushAll_stems (d : Decoder) (bs : Bytes) :
    Stems (d.buffer ++ bs) (d.pushAll bs).2 := by
  induction bs generalizing d with
  | nil => exact .nothing _
  | cons b bs ih =>
      have hbytes : d.buffer ++ b :: bs = (d.buffer ++ [b]) ++ bs := by
        rw [List.append_assoc]
        rfl
      have hrest := ih (d.push b).1
      rw [hbytes]
      show Stems _ ((d.push b).2.toList ++ ((d.push b).1.pushAll bs).2)
      rcases d.push_cases b with
        ⟨thrown, hsplit, hanswer⟩ | ⟨skipped, p, more, f, hsplit, hframe,
          hempty, hanswer⟩
      · rw [hsplit, hanswer, List.append_assoc]
        exact hrest.skip thrown
      · rw [hempty] at hrest
        rw [hsplit, hanswer, List.append_assoc, List.append_assoc]
        exact ((hrest.skip more).find hframe).skip skipped

/-- **Soundness.**  Bytes of any kind, in whatever calls, are gaps and packets
in turn, and the frames that a new decoder gives back are those that the packets
stand for, in their order.  Every packet begins with the start byte of the
version, has the length that it announces and a right checksum, and its header
and its parsed message are those of the frame.  And every frame that comes back
is its own decoding, so that it can be sent on. -/
theorem frames_stem_from_packets (calls : List Feed) :
    (∃ (finds : List Find) (rest : Bytes),
        calls.flatMap Feed.bytes = finds.flatMap Find.bytes ++ rest ∧
          (feedAll {} calls).2.flatten = finds.map Find.frame ∧
          ∀ x ∈ finds,
            x.packet.bytes.head? = some x.frame.version.startByte ∧
              announcedLength x.packet.bytes = some x.packet.bytes.length ∧
              Envelope.open? x.frame.version x.packet.bytes.tail =
                some x.packet.envelope ∧
              x.packet.envelope.isIntact = true ∧
              x.packet.envelope.header = x.frame.header ∧
              Message.parse x.packet.envelope.id x.packet.envelope.payload =
                .ok x.frame.message) ∧
      ∀ f ∈ (feedAll {} calls).2.flatten,
        pushAll {} f.encode =
          ({ buffer := [], stats := { frames := 1 } }, [f]) := by
  obtain ⟨_, hframes⟩ := feedAll_eq {} calls
  obtain ⟨finds, rest, hbytes, hfinds⟩ :=
    pushAll_stems {} (calls.flatMap Feed.bytes)
  rw [← hframes] at hfinds
  refine ⟨⟨finds, rest, hbytes, hfinds, ?_⟩, ?_⟩
  · intro x _
    obtain ⟨hversion, hheader, hparse⟩ :=
      x.packet.frame?_eq_some_iff.mp x.stands
    have hopen := x.packet.open?_bytes []
    rw [List.append_nil] at hopen
    rw [hversion]
    exact ⟨rfl, x.packet.announcedLength_bytes, hopen, beq_self_eq_true _,
      hheader.symm, hparse⟩
  · intro f hf
    rw [hfinds] at hf
    obtain ⟨x, _, rfl⟩ := List.mem_map.mp hf
    have hreads := reads_encode (Packet.sendable_of_frame? x.stands) {}
    apply Prod.ext hreads.decoder
    rw [pushAll_answers, hreads.answers, List.filterMap_append, frames_silence]
    rfl

end Decoder

end GroundLink
