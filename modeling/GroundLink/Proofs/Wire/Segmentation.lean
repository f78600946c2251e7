import GroundLink.Proofs.Wire.RoundTrip

/-!
# How a stream falls into pieces

Bytes of any kind are noise and candidates in turn, and then the beginning of a
candidate.  A candidate is a run of bytes that begins like a frame and is
exactly as long as its own header announces; nothing is asked of what it holds,
so that there may be start bytes within.  `Announces` says what a header
announces, as soon as enough of it is there; more bytes make no difference to it
(`Announces.append`), and that is why there is one way only to cut a stream
(`Segmentation.unique`).

The decoder cuts it that way.  What it has collected is always a beginning
(`Part`), and one more byte is thrown away, completes a candidate, or makes a
longer beginning (`push_part`).  `stream_segmented` is the account of a whole
stream, in whatever calls, and of what is collected in any state that can be
reached.
-/

namespace GroundLink

/-- The length that the header in front of these bytes announces for the whole
of a frame. -/
inductive Announces : Bytes → Nat → Prop
  | first (length : UInt8) (rest : Bytes) :
      Announces (0xFE :: length :: rest) (8 + length.toNat)
  | second (length flags : UInt8) (rest : Bytes) :
      Announces (0xFD :: length :: flags :: rest)
        (12 + length.toNat + if flags &&& 1 = 0 then 0 else 13)

/-- A run of bytes that is exactly as long as its own header announces. -/
def Candidate (bs : Bytes) : Prop := Announces bs bs.length

/-- The beginning of a candidate that is not all of it. -/
def IsBeginning (bs : Bytes) : Prop :=
  ∃ more, more ≠ [] ∧ Candidate (bs ++ more)

/-- One piece of a stream. -/
inductive Piece
  | noise (b : UInt8) (quiet : b ≠ 0xFE ∧ b ≠ 0xFD)
  | candidate (bytes : Bytes) (whole : Candidate bytes)

namespace Piece

def bytes : Piece → Bytes
  | noise b _ => [b]
  | candidate bytes _ => bytes

def isNoise : Piece → Bool
  | noise .. => true
  | candidate .. => false

def isCandidate : Piece → Bool
  | noise .. => false
  | candidate .. => true

/-- The frame that is found in a candidate. -/
def frame? : Piece → Option Frame
  | noise .. => none
  | candidate bytes _ => Frame.find? (leadingVersion bytes) bytes

/-- A candidate in which no frame is found. -/
def isRefused (p : Piece) : Bool := p.isCandidate && p.frame?.isNone

/-- How a piece counts. -/
def count (stats : DecoderStats) : Piece → DecoderStats
  | noise .. => { stats with discarded := stats.discarded + 1 }
  | candidate bytes _ => stats.count (Frame.find? (leadingVersion bytes) bytes)

/-- A piece counts as a frame, as an error or as discarded. -/
theorem count_eq (p : Piece) (stats : DecoderStats) :
    count stats p =
      { frames := stats.frames + if p.frame?.isSome then 1 else 0
        parseErrors := stats.parseErrors + if p.isRefused then 1 else 0
        discarded := stats.discarded + if p.isNoise then 1 else 0 } := by
  cases p with
  | noise b quiet => rfl
  | candidate bytes whole =>
      have hcount : count stats (candidate bytes whole) =
          stats.count (candidate bytes whole).frame? := rfl
      rw [hcount]
      unfold isRefused
      cases (candidate bytes whole).frame? <;> rfl

/-- A frame is found in a candidate, or it is refused. -/
theorem found_add_refused (p : Piece) :
    ((if p.frame?.isSome then 1 else 0) + if p.isRefused then 1 else 0) =
      if p.isCandidate then 1 else 0 := by
  cases p with
  | noise b quiet => rfl
  | candidate bytes whole =>
      unfold isRefused
      cases (candidate bytes whole).frame? <;> rfl

end Piece

/-- A way to cut bytes into pieces, with the beginning of one more candidate at
the end. -/
structure Segmentation (bs : Bytes) where
  pieces : List Piece
  rest : Bytes
  beginning : IsBeginning rest
  joined : pieces.flatMap Piece.bytes ++ rest = bs

/-! ## What a header announces -/

variable {as bs : Bytes} {n m : Nat}

/-- More bytes make no difference. -/
theorem Announces.append (h : Announces as n) (bs : Bytes) :
    Announces (as ++ bs) n := by
  cases h with
  | first length rest => exact .first length (rest ++ bs)
  | second length flags rest => exact .second length flags (rest ++ bs)

theorem Announces.unique (h : Announces bs n) (h' : Announces bs m) :
    n = m := by
  cases h with
  | first => cases h' with | first => rfl
  | second => cases h' with | second => rfl

/-- A header has one length byte, and two more bytes with it at most. -/
theorem Announces.bounds (h : Announces bs n) : 8 ≤ n ∧ n ≤ 280 := by
  cases h with
  | first length rest =>
      have hlt := length.toNat_lt
      omega
  | second length flags rest =>
      have hlt := length.toNat_lt
      split <;> omega

/-- A frame begins with a start byte. -/
theorem Announces.start {b : UInt8} (h : Announces (b :: bs) n) :
    b = 0xFE ∨ b = 0xFD := by
  cases h with
  | first => exact Or.inl rfl
  | second => exact Or.inr rfl

/-- One byte more makes a header known, or it has been known before. -/
theorem Announces.of_concat {b : UInt8} (h : Announces (bs ++ [b]) n) :
    Announces bs n ∨ bs.length + 1 < n := by
  generalize hall : bs ++ [b] = all at h
  have hlen := congrArg List.length hall
  rw [List.length_append, List.length_singleton] at hlen
  cases h with
  | first length rest =>
      rcases List.eq_nil_or_concat rest with rfl | ⟨rest, last, rfl⟩
      · simp only [List.length_cons, List.length_nil] at hlen
        omega
      · rw [List.concat_eq_append, ← List.cons_append, ← List.cons_append]
          at hall
        obtain ⟨rfl, _⟩ := List.append_inj' hall rfl
        exact Or.inl (.first length rest)
  | second length flags rest =>
      rcases List.eq_nil_or_concat rest with rfl | ⟨rest, last, rfl⟩
      · simp only [List.length_cons, List.length_nil] at hlen
        omega
      · rw [List.concat_eq_append, ← List.cons_append, ← List.cons_append,
          ← List.cons_append] at hall
        obtain ⟨rfl, _⟩ := List.append_inj' hall rfl
        exact Or.inl (.second length flags rest)

/-! ## Beginnings -/

/-- What a decoder may have collected: nothing, or bytes that begin like a frame
and are fewer than announced. -/
structure Part (bs : Bytes) : Prop where
  start : ∀ b rest, bs = b :: rest → b = 0xFE ∨ b = 0xFD
  short : ∀ n, Announces bs n → bs.length < n

theorem part_nil : Part [] := ⟨nofun, fun _ h => nomatch h⟩

/-- Bytes that begin like a frame can be gone on with until there is a
header. -/
theorem Part.exists_header (h : Part bs) :
    ∃ more n, Announces (bs ++ more) n ∧ (bs ++ more).length < n := by
  match bs, h with
  | [], _ => exact ⟨[0xFE, 0], 8, .first 0 [], by decide⟩
  | [b], h =>
      rcases h.start b [] rfl with rfl | rfl
      · exact ⟨[0], 8, .first 0 [], by decide⟩
      · exact ⟨[0, 0], 12, .second 0 0 [], by decide⟩
  | b :: length :: rest, h =>
      rcases h.start b _ rfl with rfl | rfl
      · have hhead : Announces (0xFE :: length :: rest) _ := .first length rest
        exact ⟨[], _, hhead.append [], by simpa using h.short _ hhead⟩
      · cases rest with
        | nil =>
            refine ⟨[0], _, .second length 0 [], ?_⟩
            simp only [List.cons_append, List.nil_append, List.length_cons,
              List.length_nil]
            omega
        | cons flags rest =>
            have hhead : Announces (0xFD :: length :: flags :: rest) _ :=
              .second length flags rest
            exact ⟨[], _, hhead.append [], by simpa using h.short _ hhead⟩

/-- **What may be collected** are the beginnings of candidates. -/
theorem isBeginning_iff : IsBeginning bs ↔ Part bs := by
  constructor
  · rintro ⟨more, hmore, hwhole⟩
    have hpos := List.length_pos_iff.mpr hmore
    refine ⟨?_, ?_⟩
    · rintro b rest rfl
      exact hwhole.start
    · intro n hn
      have hlen := (hn.append more).unique hwhole
      rw [List.length_append] at hlen
      omega
  · intro h
    obtain ⟨more, n, hn, hlt⟩ := h.exists_header
    -- fill up with anything
    refine ⟨more ++ List.replicate (n - (bs ++ more).length) 0, ?_, ?_⟩
    · have hfill : n - (bs ++ more).length ≠ 0 := by omega
      intro hnil
      exact hfill
        (List.replicate_eq_nil_iff 0 |>.mp (List.append_eq_nil_iff.mp hnil).2)
    · have hlen :
          (bs ++ (more ++ List.replicate (n - (bs ++ more).length) 0)).length =
            n := by
        rw [← List.append_assoc, List.length_append, List.length_replicate]
        omega
      unfold Candidate
      rw [hlen, ← List.append_assoc]
      exact hn.append _

theorem Part.length_lt (h : Part bs) : bs.length < 280 := by
  obtain ⟨more, n, hn, hlt⟩ := h.exists_header
  have hbounds := hn.bounds
  rw [List.length_append] at hlt
  omega

/-! ## One way to cut -/

/-- A stream that begins with a candidate is not the beginning of another. -/
theorem Candidate.not_part (h : Candidate as) (bs : Bytes) :
    ¬Part (as ++ bs) := by
  intro hpart
  have hlt := hpart.short _ (Announces.append h bs)
  rw [List.length_append] at hlt
  omega

theorem Candidate.ne_nil (h : Candidate as) : as ≠ [] := by
  rintro rfl
  cases h

/-- Candidates at the front of the same bytes are the same. -/
theorem Candidate.eq_of_append_eq {as' bs' : Bytes} (h : Candidate as)
    (h' : Candidate as') (heq : as ++ bs = as' ++ bs') :
    as = as' ∧ bs = bs' := by
  have hlen : Announces (as ++ bs) as'.length := heq ▸ Announces.append h' bs'
  exact List.append_inj heq ((Announces.append h bs).unique hlen)

/-- Noise does not begin like a frame. -/
theorem Candidate.not_noise {b : UInt8} {as' : Bytes} (h : Candidate as')
    (quiet : b ≠ 0xFE ∧ b ≠ 0xFD) (bs bs' : Bytes) : b :: bs ≠ as' ++ bs' := by
  intro heq
  cases as' with
  | nil => exact h.ne_nil rfl
  | cons b' as' =>
      obtain ⟨rfl, _⟩ := List.cons.inj heq
      rcases Announces.start h with rfl | rfl
      · exact quiet.1 rfl
      · exact quiet.2 rfl

/-- The first piece is the same, however the bytes are cut. -/
theorem Piece.eq_of_append_eq {p p' : Piece} {bs' : Bytes}
    (heq : p.bytes ++ bs = p'.bytes ++ bs') : p = p' ∧ bs = bs' := by
  cases p with
  | noise b quiet =>
      cases p' with
      | noise b' quiet' =>
          obtain ⟨rfl, hrest⟩ := List.cons.inj heq
          exact ⟨rfl, hrest⟩
      | candidate bytes' whole' =>
          exact absurd heq (whole'.not_noise quiet bs bs')
  | candidate bytes whole =>
      cases p' with
      | noise b' quiet' => exact absurd heq.symm (whole.not_noise quiet' bs' bs)
      | candidate bytes' whole' =>
          obtain ⟨rfl, hrest⟩ := whole.eq_of_append_eq whole' heq
          exact ⟨rfl, hrest⟩

/-- The beginning of a candidate has no whole piece in front. -/
theorem Part.no_piece (h : Part bs) (p : Piece) (as : Bytes) :
    bs ≠ p.bytes ++ as := by
  rintro rfl
  cases p with
  | noise b quiet =>
      rcases h.start b as rfl with rfl | rfl
      · exact quiet.1 rfl
      · exact quiet.2 rfl
  | candidate bytes whole => exact whole.not_part as h

/-- Pieces and a beginning are told apart from left to right. -/
theorem pieces_unique {ps ps' : List Piece} {rest rest' : Bytes} (h : Part rest)
    (h' : Part rest')
    (heq : ps.flatMap Piece.bytes ++ rest = ps'.flatMap Piece.bytes ++ rest') :
    ps = ps' ∧ rest = rest' := by
  induction ps generalizing ps' with
  | nil =>
      cases ps' with
      | nil => exact ⟨rfl, heq⟩
      | cons p' ps' =>
          rw [List.flatMap_cons, List.append_assoc] at heq
          exact absurd heq (h.no_piece p' _)
  | cons p ps ih =>
      rw [List.flatMap_cons, List.append_assoc] at heq
      cases ps' with
      | nil => exact absurd heq.symm (h'.no_piece p _)
      | cons p' ps' =>
          rw [List.flatMap_cons, List.append_assoc] at heq
          obtain ⟨rfl, htail⟩ := Piece.eq_of_append_eq heq
          obtain ⟨rfl, hrest⟩ := ih htail
          exact ⟨rfl, hrest⟩

/-- **There is one way to cut a stream.** -/
theorem Segmentation.unique (s s' : Segmentation bs) : s = s' := by
  obtain ⟨pieces, rest, beginning, joined⟩ := s
  obtain ⟨pieces', rest', beginning', joined'⟩ := s'
  obtain ⟨rfl, rfl⟩ := pieces_unique (isBeginning_iff.mp beginning)
    (isBeginning_iff.mp beginning') (joined.trans joined'.symm)
  rfl

namespace Decoder

/-! ## The decoder cuts it that way -/

/-- The decoder reads the header as it is meant. -/
theorem announcedLength_eq_some_iff {b : UInt8} (hstart : b = 0xFE ∨ b = 0xFD) :
    announcedLength (b :: bs) = some n ↔ Announces (b :: bs) n := by
  have hflags (flags : UInt8) :
      (if Envelope.isSigned flags then Envelope.signatureLength else 0) =
      if flags &&& 1 = 0 then 0 else 13 := by
    unfold Envelope.isSigned Envelope.signedFlag Envelope.signatureLength
    by_cases h : flags &&& 1 = 0 <;> simp [h]
  constructor
  · intro h
    rcases hstart with rfl | rfl
    · match bs, h with
      | length :: rest, h =>
          obtain rfl : 8 + length.toNat = n := Option.some.inj h
          exact .first length rest
    · match bs, h with
      | length :: flags :: rest, h =>
          obtain rfl := Option.some.inj h
          rw [hflags]
          exact .second length flags rest
  · intro h
    cases h with
    | first length rest => rfl
    | second length flags rest =>
        rw [← hflags]
        rfl

/-- Collected bytes are taken for a frame once there are as many as
announced. -/
theorem isComplete_iff {b : UInt8} (hstart : b = 0xFE ∨ b = 0xFD) :
    isComplete (b :: bs) = true ↔ ∃ n, Announces (b :: bs) n ∧
    n ≤ (b :: bs).length := by
  unfold isComplete
  rw [Option.any_eq_true]
  simp only [announcedLength_eq_some_iff hstart, decide_eq_true_eq]

/-- What was collected and one byte more. -/
theorem Part.concat_start {b : UInt8} (h : Part bs)
    (hcollect : bs = [] → b = 0xFE ∨ b = 0xFD) :
    ∃ first rest, bs ++ [b] = first :: rest ∧
      (first = 0xFE ∨ first = 0xFD) := by
  cases bs with
  | nil => exact ⟨b, [], rfl, hcollect rfl⟩
  | cons first rest => exact ⟨first, rest ++ [b], rfl, h.start first rest rfl⟩

theorem isStartByte_iff {b : UInt8} :
    isStartByte b = true ↔ b = 0xFE ∨ b = 0xFD := by
  simp [isStartByte, Version.startByte]

/-- **What one byte does** to a decoder that has collected a beginning: it is
thrown away, it completes a candidate, or it makes a longer beginning. -/
theorem push_part {d : Decoder} (h : Part d.buffer) (b : UInt8) :
    (∃ quiet : b ≠ 0xFE ∧ b ≠ 0xFD, d.buffer = [] ∧
        d.push b =
          ({ buffer := [], stats := (Piece.noise b quiet).count d.stats },
            none)) ∨
      (∃ whole : Candidate (d.buffer ++ [b]),
        d.push b =
          ({ buffer := [], stats := (Piece.candidate _ whole).count d.stats },
            (Piece.candidate _ whole).frame?)) ∨
      Part (d.buffer ++ [b]) ∧
      d.push b = ({ d with buffer := d.buffer ++ [b] }, none) := by
  by_cases hnoise : (d.buffer.isEmpty && ! isStartByte b) = true
  · -- outside a frame, and none begins here
    obtain ⟨hempty, hnot⟩ := Bool.and_eq_true_iff.mp hnoise
    have hquiet : ¬(b = 0xFE ∨ b = 0xFD) := by
      rw [← isStartByte_iff]
      simpa using hnot
    have hbuffer : d.buffer = [] := List.isEmpty_iff.mp hempty
    refine Or.inl ⟨not_or.mp hquiet, hbuffer, ?_⟩
    rw [push, if_pos hnoise, hbuffer]
    rfl
  · have hcollect : d.buffer = [] → b = 0xFE ∨ b = 0xFD := by
      intro hempty
      rw [← isStartByte_iff]
      simpa [hempty] using hnoise
    obtain ⟨first, rest, hall, hstart⟩ := Part.concat_start h hcollect
    by_cases hcomplete : isComplete (d.buffer ++ [b]) = true
    · -- the header has been known before, since no frame is as short as a
      -- header
      have hwhole : Candidate (d.buffer ++ [b]) := by
        rw [hall, isComplete_iff hstart, ← hall] at hcomplete
        obtain ⟨n, hn, hle⟩ := hcomplete
        have hlen : n = (d.buffer ++ [b]).length := by
          rw [List.length_append, List.length_singleton] at hle ⊢
          rcases hn.of_concat with hbefore | hlong
          · have hlt := h.short n hbefore
            omega
          · omega
        unfold Candidate
        rwa [← hlen]
      refine Or.inr (Or.inl ⟨hwhole, ?_⟩)
      cases hfind :
        Frame.find? (leadingVersion (d.buffer ++ [b])) (d.buffer ++ [b]) <;>
        simp [push, hnoise, hcomplete, finish, Piece.count, Piece.frame?,
          DecoderStats.count, hfind]
    · refine Or.inr (Or.inr ⟨⟨?_, ?_⟩, ?_⟩)
      · intro b' rest' heq
        obtain ⟨rfl, _⟩ := List.cons.inj (hall.symm.trans heq)
        exact hstart
      · intro n hn
        rw [hall, isComplete_iff hstart, ← hall] at hcomplete
        exact Nat.lt_of_not_le fun hle => hcomplete ⟨n, hn, hle⟩
      · simp [push, hnoise, hcomplete]

/-- What a decoder has made of some bytes: pieces, each counted and answered,
and what it has collected since. -/
structure Cuts (d : Decoder) (bs : Bytes) (result : Decoder × List Frame)
    (pieces : List Piece) : Prop where
  part : Part result.1.buffer
  joined : pieces.flatMap Piece.bytes ++ result.1.buffer = d.buffer ++ bs
  stats : result.1.stats = pieces.foldl Piece.count d.stats
  frames : result.2 = pieces.filterMap Piece.frame?

/-- **Bytes are cut as they come.**  The induction is over the bytes, with what
has been collected before them. -/
theorem exists_cuts {d : Decoder} (h : Part d.buffer) (bs : Bytes) :
    ∃ pieces, Cuts d bs (d.pushAll bs) pieces := by
  induction bs generalizing d with
  | nil => exact ⟨[], h, (List.append_nil _).symm, rfl, rfl⟩
  | cons b bs ih =>
      have hrest : d.pushAll (b :: bs) = (((d.push b).1.pushAll bs).1,
          (d.push b).2.toList ++ ((d.push b).1.pushAll bs).2) := rfl
      have hbytes : d.buffer ++ b :: bs = (d.buffer ++ [b]) ++ bs := by
        rw [List.append_assoc]
        rfl
      rw [hrest]
      rcases push_part h b with
          ⟨quiet, hempty, hpush⟩ | ⟨whole, hpush⟩ | ⟨hpart, hpush⟩
      · rw [hpush]
        obtain ⟨pieces, hcuts⟩ := ih (d := ⟨[], _⟩) part_nil
        refine ⟨.noise b quiet :: pieces, hcuts.part, ?_, hcuts.stats, ?_⟩
        · rw [List.flatMap_cons, List.append_assoc, hcuts.joined, hempty]
          rfl
        · exact hcuts.frames
      · rw [hpush]
        obtain ⟨pieces, hcuts⟩ := ih (d := ⟨[], _⟩) part_nil
        refine ⟨.candidate _ whole :: pieces, hcuts.part, ?_, hcuts.stats, ?_⟩
        · rw [List.flatMap_cons, List.append_assoc, hcuts.joined, hbytes]
          rfl
        · rw [List.filterMap_cons, hcuts.frames]
          cases (Piece.candidate _ whole).frame? <;> rfl
      · rw [hpush]
        obtain ⟨pieces, hcuts⟩ :=
          ih (d := { d with buffer := d.buffer ++ [b] }) hpart
        exact ⟨pieces, hcuts.part, hcuts.joined.trans hbytes.symm, hcuts.stats,
          hcuts.frames⟩

/-- **A candidate is completed** at its last byte: it counts once, the frame
that is found in it is the answer, and nothing is left over. -/
theorem pushAll_completes {d : Decoder} (h : Part d.buffer)
    (whole : Candidate (d.buffer ++ bs)) :
    d.pushAll bs =
      ({ buffer := [], stats := (Piece.candidate _ whole).count d.stats },
        (Piece.candidate _ whole).frame?.toList) := by
  obtain ⟨pieces, hcuts⟩ := exists_cuts h bs
  have hone : pieces.flatMap Piece.bytes ++ (d.pushAll bs).1.buffer =
      [Piece.candidate _ whole].flatMap Piece.bytes ++ [] := by
    rw [hcuts.joined, List.flatMap_singleton, List.append_nil]
    rfl
  obtain ⟨rfl, hbuffer⟩ := pieces_unique hcuts.part part_nil hone
  have hstats := hcuts.stats
  have hframes := hcuts.frames
  generalize d.pushAll bs = result at hbuffer hstats hframes ⊢
  obtain ⟨⟨buffer, stats⟩, frames⟩ := result
  dsimp only at hbuffer hstats hframes
  subst hbuffer hstats hframes
  rw [List.filterMap_cons, List.filterMap_nil]
  cases (Piece.candidate _ whole).frame? <;> rfl

/-- What the counters come to. -/
theorem stats_foldl_count (pieces : List Piece) (stats : DecoderStats) :
    pieces.foldl Piece.count stats =
      { frames := stats.frames + pieces.countP (·.frame?.isSome)
        parseErrors := stats.parseErrors + pieces.countP Piece.isRefused
        discarded := stats.discarded + pieces.countP Piece.isNoise } := by
  induction pieces generalizing stats with
  | nil => rfl
  | cons p pieces ih =>
      rw [List.foldl_cons, ih, List.countP_cons, List.countP_cons,
        List.countP_cons, p.count_eq]
      simp only [Nat.add_assoc, Nat.add_comm (List.countP _ _)]

/-- A candidate is a frame or an error, and not both. -/
theorem frames_add_refused (pieces : List Piece) :
    pieces.countP (·.frame?.isSome) + pieces.countP Piece.isRefused =
      pieces.countP Piece.isCandidate := by
  induction pieces with
  | nil => rfl
  | cons p pieces ih =>
      have hp := p.found_add_refused
      rw [List.countP_cons, List.countP_cons, List.countP_cons]
      omega

/-! ## What is collected in any state -/

/-- What the owner of a decoder does with it. -/
inductive Use
  | feed (call : Feed)
  | reset

/-- The decoder after one use of it. -/
def use (d : Decoder) : Use → Decoder
  | .feed call => (d.feed call).1
  | .reset => d.reset

/-- The decoder after many, one after the other. -/
def useAll (d : Decoder) (uses : List Use) : Decoder := uses.foldl use d

theorem part_use {d : Decoder} (h : Part d.buffer) (x : Use) :
    Part (d.use x).buffer := by
  cases x with
  | feed call =>
      obtain ⟨_, hcuts⟩ := exists_cuts h call.bytes
      have hpart := hcuts.part
      rw [← feed_eq] at hpart
      exact hpart
  | reset => exact part_nil

theorem part_useAll {d : Decoder} (h : Part d.buffer) (uses : List Use) :
    Part (d.useAll uses).buffer := by
  induction uses generalizing d with
  | nil => exact h
  | cons x uses ih => exact ih (part_use h x)

/-- **A stream is noise and candidates.**  Bytes of any kind, fed to a new
decoder in whatever calls, can be cut in one way into bytes of noise, candidates
and the beginning of one more candidate.  That beginning is what the decoder has
collected.  It has counted every byte of noise as discarded and every candidate
once, as a frame if it found one and as an error if not, and has given back the
frames in their order.

In any state that can be reached, also by forgetting what was collected, the
decoder has collected nothing, or bytes that begin with a start byte; they are
fewer than announced once that is known, and always fewer than 280. -/
theorem stream_segmented :
    (∀ calls : List Feed,
      let d := (feedAll {} calls).1
      ∃ s : Segmentation (calls.flatMap Feed.bytes),
        (∀ s' : Segmentation (calls.flatMap Feed.bytes), s' = s) ∧
          s.rest = d.buffer ∧
          d.stats.discarded = s.pieces.countP Piece.isNoise ∧
          d.stats.frames + d.stats.parseErrors =
            s.pieces.countP Piece.isCandidate ∧
          d.stats.frames = s.pieces.countP (·.frame?.isSome) ∧
          d.stats.parseErrors = s.pieces.countP Piece.isRefused ∧
          (feedAll {} calls).2.flatten = s.pieces.filterMap Piece.frame?) ∧
      ∀ uses : List Use,
        let d := useAll {} uses
        (d.buffer = [] ∨
          ∃ b rest, d.buffer = b :: rest ∧ (b = 0xFE ∨ b = 0xFD)) ∧
          (∀ n, Announces d.buffer n → d.buffer.length < n) ∧
          d.buffer.length < 280 := by
  constructor
  · intro calls d
    obtain ⟨hleft, hframes⟩ := feedAll_eq {} calls
    obtain ⟨pieces, hcuts⟩ :=
      exists_cuts (d := {}) part_nil (calls.flatMap Feed.bytes)
    have hstats := hcuts.stats
    rw [← hleft, stats_foldl_count] at hstats
    have hpart := hcuts.part
    have hjoined := hcuts.joined
    rw [← hleft] at hpart hjoined
    let s : Segmentation (calls.flatMap Feed.bytes) :=
      ⟨pieces, d.buffer, isBeginning_iff.mpr hpart, hjoined⟩
    have hcounted : d.stats.frames = pieces.countP (·.frame?.isSome) := by
      rw [hstats]
      exact Nat.zero_add _
    have hrefused : d.stats.parseErrors = pieces.countP Piece.isRefused := by
      rw [hstats]
      exact Nat.zero_add _
    refine ⟨s, fun s' => s'.unique s, rfl, ?_, ?_, hcounted, hrefused, ?_⟩
    · rw [hstats]
      exact Nat.zero_add _
    · rw [hcounted, hrefused]
      exact frames_add_refused pieces
    · exact hframes.trans hcuts.frames
  · intro uses d
    have hpart : Part d.buffer := part_useAll (d := {}) part_nil uses
    refine ⟨?_, hpart.short, hpart.length_lt⟩
    cases hbuffer : d.buffer with
    | nil => exact Or.inl rfl
    | cons b rest => exact Or.inr ⟨b, rest, rfl, hpart.start b rest hbuffer⟩

/-- A start byte within a candidate begins nothing. -/
example :
    pushAll {} [0x00, 0xFE, 0, 1, 1, 1, 0xFE, 2, 3, 0xFD, 4] =
      ({ buffer := [0xFD, 4], stats := { parseErrors := 1, discarded := 1 } },
        []) := by
  decide +kernel

end Decoder

end GroundLink
