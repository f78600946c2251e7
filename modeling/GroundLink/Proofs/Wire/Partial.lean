import GroundLink.Proofs.Wire.RoundTrip
import Mathlib.Data.List.Induction

/-!
# Streams that have not come to their end

A decoder that has been fed the beginning of a stream of frames has given back
the frames that are there as a whole, and has collected what is there of the
next one (`pushAll_beginning`).  Nothing is lost at the cut, wherever it is, and
nothing is left over once the stream is at its end (`feedAll_beginning`).
-/

namespace GroundLink.Decoder

/-- **Less than all of a packet** is collected, without an answer. -/
theorem reads_part {p : Packet} {as bs : Bytes} (hsplit : as ++ bs = p.bytes)
    (hbs : bs ≠ []) (stats : DecoderStats) :
    Reads { buffer := [], stats := stats } as (List.replicate as.length none)
      { buffer := as, stats := stats } := by
  induction as using List.reverseRecOn generalizing bs with
  | nil => exact .refl _
  | append_singleton as b ih =>
      have hsplit' : as ++ b :: bs = p.bytes := by
        rw [← hsplit, List.append_assoc]; rfl
      have hcollect : (as.isEmpty && ! isStartByte b) = false := by
        cases as with
        | nil => simp [isStartByte_bytes hsplit']
        | cons _ _ => rfl
      have hpush : push { buffer := as, stats := stats } b =
          ({ buffer := as ++ [b], stats := stats }, none) := by
        simp only [push, hcollect, Bool.false_eq_true, if_false,
          not_isComplete_prefix hsplit hbs]
      have hlast : Reads { buffer := as, stats := stats } [b] [none]
          { buffer := as ++ [b], stats := stats } := .cons hpush (.refl _)
      have hall := (ih hsplit' (List.cons_ne_nil b bs)).append hlast
      rw [List.length_append, List.length_singleton, List.replicate_succ']
      exact hall

/-- **The beginning of a stream.**  The frames that are there as a whole have
come in their order and have been counted, what is there of the next one is
collected, and that is less than all of it. -/
theorem pushAll_beginning {frames : List Frame} (h : ∀ f ∈ frames, f.Sendable)
    {p q : Bytes} (hsplit : p ++ q = frames.flatMap Frame.encode)
    (stats : DecoderStats) :
    ∃ done later rest, frames = done ++ later ∧
      p = done.flatMap Frame.encode ++ rest ∧
      (∀ f ∈ later.head?, rest.length < f.encode.length) ∧
      pushAll { buffer := [], stats := stats } p =
        ({ buffer := rest
           stats := { stats with frames := stats.frames + done.length } },
           done) := by
  induction frames generalizing p stats with
  | nil =>
      obtain ⟨rfl, rfl⟩ := List.append_eq_nil_iff.mp hsplit
      exact ⟨[], [], [], rfl, rfl, by simp, rfl⟩
  | cons f frames ih =>
      have hf := h f List.mem_cons_self
      rw [List.flatMap_cons] at hsplit
      have hcut : (∃ missing, missing ≠ [] ∧ f.encode = p ++ missing) ∨
          ∃ more, p = f.encode ++ more ∧
            more ++ q = frames.flatMap Frame.encode := by
        rcases List.append_eq_append_iff.mp hsplit with
            ⟨missing, hpart, hq⟩ | ⟨more, hp, hmore⟩
        · by_cases hmissing : missing = []
          · subst hmissing
            exact Or.inr ⟨[], by simpa using hpart.symm, hq⟩
          · exact Or.inl ⟨missing, hmissing, hpart⟩
        · exact Or.inr ⟨more, hp, hmore.symm⟩
      rcases hcut with ⟨missing, hmissing, hpart⟩ | ⟨more, rfl, hmore⟩
      · -- the cut is within the first frame
        have hpacket : p ++ missing = hf.packet.bytes :=
          hpart.symm.trans hf.bytes_packet.symm
        have hreads := reads_part hpacket hmissing stats
        have hpos := List.length_pos_iff.mpr hmissing
        have hlen := congrArg List.length hpart
        rw [List.length_append] at hlen
        refine ⟨[], f :: frames, p, rfl, rfl, ?_, ?_⟩
        · intro f' hf'
          obtain rfl : f = f' := by simpa using hf'
          omega
        · apply Prod.ext hreads.decoder
          rw [pushAll_answers, hreads.answers, frames_silence]
      · -- the first frame is there as a whole
        have hreads := reads_encode hf stats
        obtain ⟨done, later, rest, rfl, rfl, hnext, hpush⟩ :=
          ih (fun f' hf' => h f' (List.mem_cons_of_mem f hf')) hmore
            { stats with frames := stats.frames + 1 }
        refine ⟨f :: done, later, rest, rfl, by simp, hnext, ?_⟩
        have hcount : stats.frames + (f :: done).length =
            stats.frames + 1 + done.length := by
          rw [List.length_cons]
          omega
        rw [pushAll_append, hreads.decoder, hpush, pushAll_answers,
          hreads.answers, List.filterMap_append, frames_silence, hcount]
        rfl

/-- **A new decoder over the beginning of a stream**, in whatever calls.  Once
all of the stream is there, all of its frames have come and nothing was lost or
broken. -/
theorem feedAll_beginning {frames : List Frame} (h : ∀ f ∈ frames, f.Sendable)
    {p q : Bytes} (hsplit : p ++ q = frames.flatMap Frame.encode)
    {calls : List Feed} (hcalls : calls.flatMap Feed.bytes = p) :
    (∃ later, frames = (feedAll {} calls).2.flatten ++ later ∧
        p = (feedAll {} calls).2.flatten.flatMap Frame.encode ++
          (feedAll {} calls).1.buffer ∧
        ∀ f ∈ later.head?, (feedAll {} calls).1.buffer.length <
          f.encode.length) ∧
      (q = [] → (feedAll {} calls).2.flatten = frames ∧
        (feedAll {} calls).1 =
          { buffer := [], stats := { frames := frames.length } }) := by
  obtain ⟨done, later, rest, rfl, rfl, hcut, hpush⟩ :=
    pushAll_beginning h hsplit {}
  obtain ⟨hleft, hframes⟩ := feedAll_eq {} calls
  have hdone : (feedAll {} calls).2.flatten = done := by
    rw [hframes, hcalls, hpush]
  have hdecoder : (feedAll {} calls).1 =
      { buffer := rest, stats := { frames := done.length } } := by
    rw [hleft, hcalls, hpush]
    simp
  rw [hdone, hdecoder]
  refine ⟨⟨later, rfl, rfl, hcut⟩, ?_⟩
  intro hq
  have hrest : rest = later.flatMap Frame.encode := by
    rw [hq, List.append_nil, List.flatMap_append] at hsplit
    exact List.append_cancel_left hsplit
  -- a frame that is there as a whole has come
  cases later with
  | nil =>
      rw [hrest, List.append_nil]
      exact ⟨rfl, rfl⟩
  | cons f later =>
      have hshort := hcut f rfl
      rw [hrest, List.flatMap_cons, List.length_append] at hshort
      omega

end GroundLink.Decoder
