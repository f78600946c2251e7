import GroundLink.Proofs.Wire.Segmentation

/-!
# Finding the way back into a stream

Wherever a decoder is in a frame that will never come to its end, a silence of
279 bytes brings it out of there.  What it has collected by then is the
beginning of one candidate, which is at most 280 bytes long and has its start
byte already; the silence completes it, even if the length and the flags are
themselves read out of the silence (`Part.exists_candidate`).  What is left of
the silence begins no other candidate (`pushAll_silence`), so that frames that
follow are read as by a new decoder.

One byte less is not enough.
-/

namespace GroundLink

variable {as bs : Bytes}

theorem quiet_append : Quiet (as ++ bs) ↔ Quiet as ∧ Quiet bs := by
  unfold Quiet
  simp only [List.mem_append, not_or]
  constructor
  · rintro ⟨⟨h₁, h₂⟩, h₃, h₄⟩
    exact ⟨⟨h₁, h₃⟩, h₂, h₄⟩
  · rintro ⟨⟨h₁, h₃⟩, h₂, h₄⟩
    exact ⟨⟨h₁, h₂⟩, h₃, h₄⟩

/-- Three bytes that begin like a frame have all of the header that announces a
length. -/
theorem exists_announces
    (hstart : ∀ b rest, bs = b :: rest → b = 0xFE ∨ b = 0xFD)
    (hlong : 3 ≤ bs.length) : ∃ n, Announces bs n := by
  match bs, hlong with
  | b :: length :: flags :: rest, _ =>
      rcases hstart b _ rfl with rfl | rfl
      · exact ⟨_, .first length (flags :: rest)⟩
      · exact ⟨_, .second length flags rest⟩

/-- **A beginning is completed** by what comes next, once that makes 280 bytes
with it. -/
theorem Part.exists_candidate (h : Part as) (hbegun : as ≠ [])
    (hlong : 280 ≤ as.length + bs.length) :
    ∃ fill rest, bs = fill ++ rest ∧ Candidate (as ++ fill) := by
  have hstart (more : Bytes) : ∀ b rest, as ++ more = b :: rest → b = 0xFE ∨
      b = 0xFD := by
    intro b rest heq
    obtain ⟨first, tail, rfl⟩ := List.exists_cons_of_ne_nil hbegun
    obtain ⟨rfl, _⟩ := List.cons.inj heq
    exact h.start first tail rfl
  obtain ⟨n, hn⟩ : ∃ n, Announces (as ++ bs) n :=
    exists_announces (hstart bs) (by rw [List.length_append]; omega)
  obtain ⟨hmin, hmax⟩ := hn.bounds
  -- if the header is known already, fewer bytes than announced have been
  -- collected
  have hshort : as.length < n := by
    by_contra hnot
    obtain ⟨m, hm⟩ := exists_announces h.start (by omega)
    obtain rfl : m = n := (hm.append bs).unique hn
    exact hnot (h.short m hm)
  have hfill : (as ++ bs.take (n - as.length)).length = n := by
    rw [List.length_append, List.length_take]
    omega
  obtain ⟨m, hm⟩ :=
    exists_announces (hstart (bs.take (n - as.length))) (by omega)
  have hall := hm.append (bs.drop (n - as.length))
  rw [List.append_assoc, List.take_append_drop] at hall
  obtain rfl := hall.unique hn
  refine ⟨_, _, (List.take_append_drop (m - as.length) bs).symm, ?_⟩
  unfold Candidate
  rwa [hfill]

namespace Decoder

/-- A candidate counts once. -/
theorem count_candidate (whole : Candidate bs) (stats : DecoderStats) :
    ((Piece.candidate bs whole).count stats).frames +
        ((Piece.candidate bs whole).count stats).parseErrors =
      stats.frames + stats.parseErrors + 1 := by
  have hone := (Piece.candidate bs whole).found_add_refused
  rw [Piece.count_eq]
  simp only [Piece.isCandidate, if_true] at hone ⊢
  omega

/-- Noise is thrown away outside a frame, and nothing comes of it. -/
theorem pushAll_noise {noise : Bytes} (h : Quiet noise) (stats : DecoderStats) :
    pushAll { buffer := [], stats := stats } noise =
      ({ buffer := []
         stats := { stats with discarded := stats.discarded + noise.length } },
        []) := by
  have hreads := reads_noise h stats
  apply Prod.ext hreads.decoder
  rw [pushAll_answers, hreads.answers, frames_silence]

/-- **A long silence** completes what has been collected, if anything has, and
leaves nothing. -/
theorem pushAll_silence {d : Decoder} (h : Part d.buffer) {silence : Bytes}
    (hquiet : Quiet silence) (hlong : 279 ≤ silence.length) :
    (d.pushAll silence).1.buffer = [] ∧
      (d.pushAll silence).1.stats.frames +
        (d.pushAll silence).1.stats.parseErrors =
        d.stats.frames + d.stats.parseErrors +
          (if d.buffer = [] then 0 else 1) ∧
      (d.pushAll silence).2.length ≤ 1 := by
  by_cases hbegun : d.buffer = []
  · have hnoise := pushAll_noise hquiet d.stats
    rw [← hbegun] at hnoise
    rw [hnoise, if_pos hbegun]
    exact ⟨hbegun, rfl, Nat.zero_le 1⟩
  · have hpos := List.length_pos_iff.mpr hbegun
    have henough : 280 ≤ d.buffer.length + silence.length := by omega
    obtain ⟨fill, rest, rfl, whole⟩ := h.exists_candidate hbegun henough
    obtain ⟨_, hrest⟩ := quiet_append.mp hquiet
    rw [pushAll_append, pushAll_completes h whole, pushAll_noise hrest,
      if_neg hbegun, List.append_nil]
    exact ⟨rfl, count_candidate whole d.stats, Option.length_toList_le⟩

/-- **A silence of 279 bytes brings any decoder back.**  Take a decoder in any
state that can be reached, and feed it that many bytes or more that are no start
bytes, in whatever calls.  Nothing is collected then.  One candidate has been
completed if something was collected before, as a frame or an error, and none
otherwise; so there is one frame at most among the answers.  Encoded frames that
follow, again in whatever calls, all come back in their order.

With 278 bytes it can be otherwise. -/
theorem silence_resynchronises :
    (∀ (uses : List Use) (silence : List Feed),
      Quiet (silence.flatMap Feed.bytes) →
      279 ≤ (silence.flatMap Feed.bytes).length →
      let d := useAll {} uses
      let d' := (d.feedAll silence).1
      d'.buffer = [] ∧
        d'.stats.frames + d'.stats.parseErrors =
          d.stats.frames + d.stats.parseErrors +
            (if d.buffer = [] then 0 else 1) ∧
        (d.feedAll silence).2.flatten.length ≤ 1 ∧
        ∀ (frames : List Frame) (calls : List Feed),
          (∀ f ∈ frames, f.Sendable) →
          calls.flatMap Feed.bytes = frames.flatMap Frame.encode →
          (d'.feedAll calls).2.flatten = frames ∧
            (d'.feedAll calls).1 =
              { d' with
                stats :=
                  { d'.stats with
                    frames := d'.stats.frames + frames.length } }) ∧
      ∃ (uses : List Use) (silence : List Feed),
        Quiet (silence.flatMap Feed.bytes) ∧
        (silence.flatMap Feed.bytes).length = 278 ∧
        ((useAll {} uses).feedAll silence).1.buffer ≠ [] := by
  constructor
  · intro uses silence hquiet hlong d d'
    have hpart : Part d.buffer := part_useAll (d := {}) part_nil uses
    obtain ⟨hleft, hanswers⟩ := feedAll_eq d silence
    obtain ⟨hempty, hcount, hone⟩ := pushAll_silence hpart hquiet hlong
    rw [← hleft] at hempty hcount
    rw [← hanswers] at hone
    refine ⟨hempty, hcount, hone, fun frames calls hframes hcalls => ?_⟩
    obtain ⟨hleft', hanswers'⟩ := feedAll_eq d' calls
    have hd' : d' = { buffer := [], stats := d'.stats } := by rw [← hempty]
    have hpush := pushAll_frames hframes d'.stats
    rw [← hcalls, ← hd'] at hpush
    rw [hanswers', hleft', hpush, hempty]
    exact ⟨rfl, rfl⟩
  · exact ⟨[.feed (.byte 0xFD)], [.slice (List.replicate 278 0xFF)], by
        decide +kernel,
      by decide +kernel, by decide +kernel⟩

/-- A decoder that has seen a start byte reads the length and the flags of a
frame out of the silence, and takes all of it for that frame.  After that the
frames of the exchange come back. -/
theorem silence_after_start_byte :
    ∃ d,
      ((useAll {} [.feed (.byte 0xFD)]).feedAll
        [.slice (List.replicate 279 0xFF)]).1 = d ∧
      d.buffer = [] ∧ d.stats.frames + d.stats.parseErrors = 1 ∧
      (d.feedAll (((exchange.map Segment.frame).flatMap Frame.encode).map
        .byte)).2.flatten =
        exchange.map Segment.frame := by
  have hquiet :
      Quiet ([Feed.slice (List.replicate 279 0xFF)].flatMap Feed.bytes) := by
    decide +kernel
  have hlong : 279 ≤
      ([Feed.slice (List.replicate 279 0xFF)].flatMap Feed.bytes).length := by
    decide +kernel
  have hframes : ∀ f ∈ exchange.map Segment.frame, f.Sendable := by
    decide +kernel
  have hcalls :
      (((exchange.map Segment.frame).flatMap Frame.encode).map
        Feed.byte).flatMap
      Feed.bytes = (exchange.map Segment.frame).flatMap Frame.encode := by
    decide +kernel
  have hlost : (useAll {} [.feed (.byte 0xFD)]).stats = {} ∧
      (useAll {} [.feed (.byte 0xFD)]).buffer ≠ [] := by decide +kernel
  obtain ⟨hempty, hcount, _, hback⟩ :=
    silence_resynchronises.1 [.feed (.byte 0xFD)]
      [.slice (List.replicate 279 0xFF)] hquiet hlong
  rw [hlost.1, if_neg hlost.2] at hcount
  exact ⟨_, rfl, hempty, hcount, (hback _ _ hframes hcalls).1⟩

end Decoder

end GroundLink
