import GroundLink.Proofs.Wire.Checksum
import GroundLink.Proofs.Wire.Segmentation

/-!
# A byte that was changed on the way

The header of a frame says where the frame ends and which message it is.  As
long as these bytes are right, a decoder takes as many bytes for the frame as it
should (`candidate_set`), whatever has become of the others; and it finds a
frame in them only if they are a packet.  But no two packets with the same such
bytes differ in one place (`Packet.eq_of_set`): a difference under the checksum
makes the checksum another one, and a difference in the checksum needs one under
it.

So a frame with one other byte changed is taken in, refused, and forgotten
(`find?_set`).  The count of errors is all that is left of it, and nothing that
follows depends on that (`pushAll_countError`).
-/

namespace GroundLink

/-- The places in a frame that say where it begins and ends and which message it
is. -/
def Version.guidingPlaces : Version → List Nat
  | .v1 => [0, 1, 5]
  | .v2 => [0, 1, 2, 7, 8, 9]

namespace Packet

variable {p p' : Packet} {i : Nat} {b : UInt8}

/-- Packets that are the same in these places are put together in the same
way. -/
theorem same_shape (hversion : p'.version = p.version)
    (hplaces : ∀ j ∈ p.version.guidingPlaces, p'.bytes[j]? = p.bytes[j]?) :
    p'.id = p.id ∧ p'.payload.length = p.payload.length ∧
      p'.signature.length = p.signature.length := by
  obtain ⟨framing, header, payload, hle⟩ := p
  obtain ⟨framing', header', payload', hle'⟩ := p'
  have hlength
      (heq : UInt8.ofNat payload'.length = UInt8.ofNat payload.length) :
      payload'.length = payload.length := by
    rw [← toNat_ofNat_of_le hle', heq, toNat_ofNat_of_le hle]
  cases framing with
  | v1 id =>
      cases framing' with
      | v1 id' =>
          simp only [version, Version.guidingPlaces, bytes, covered, signature,
            List.forall_mem_cons, List.cons_append, List.getElem?_cons_succ,
            List.getElem?_cons_zero, Option.some.injEq] at hplaces
          obtain ⟨_, hlen, hid, _⟩ := hplaces
          exact ⟨congrArg UInt8.toNat hid, hlength hlen, rfl⟩
      | v2 => cases hversion
  | v2 flags compat low middle high sign signed =>
      cases framing' with
      | v1 => cases hversion
      | v2 flags' compat' low' middle' high' sign' signed' =>
          simp only [version, Version.guidingPlaces, bytes, covered, signature,
            List.forall_mem_cons, List.cons_append, List.getElem?_cons_succ,
            List.getElem?_cons_zero, Option.some.injEq] at hplaces
          obtain ⟨_, hlen, rfl, rfl, rfl, rfl, _⟩ := hplaces
          exact ⟨rfl, hlength hlen, signed'.trans signed.symm⟩

/-- **No two packets differ in one place only**, if it is none of these and
nothing is signed. -/
theorem eq_of_set (hversion : p'.version = p.version)
    (hbytes : p'.bytes = p.bytes.set i b) (hplace : i ∉ p.version.guidingPlaces)
    (hunsigned : p.signature = []) (hi : i < p.bytes.length) :
    p.bytes[i] = b := by
  obtain ⟨hid, hpayload, hsignature⟩ : p'.id = p.id ∧
      p'.payload.length = p.payload.length ∧
      p'.signature.length = p.signature.length := by
    apply same_shape hversion
    intro j hj
    have hne : i ≠ j := fun heq => hplace (heq ▸ hj)
    rw [hbytes, List.getElem?_set_ne hne]
  have hunsigned' : p'.signature = [] := by
    rw [hunsigned] at hsignature
    exact List.eq_nil_of_length_eq_zero hsignature
  have hlength : p'.covered.length = p.covered.length := by
    rw [length_covered, length_covered, hversion, hpayload]
  obtain ⟨j, rfl⟩ : ∃ j, i = j + 1 := by
    refine ⟨i - 1, ?_⟩
    have hstart : i ≠ 0 := by
      rintro rfl
      apply hplace
      unfold Version.guidingPlaces
      cases p.version <;> simp
    omega
  have hsame := congrArg List.tail hbytes
  simp only [bytes, List.set_cons_succ, List.tail_cons, hunsigned, hunsigned',
    List.append_nil] at hsame
  by_cases hj : j < p.covered.length
  · -- the checksum is the same, and what it covers is not
    rw [List.set_append_left _ _ hj] at hsame
    obtain ⟨hcovered, hsum⟩ :=
      List.append_inj hsame (by rw [hlength, List.length_set])
    have hchecksum : p'.checksum = p.checksum := by
      rw [← Checksum.ofBytes_toBytes p'.checksum,
        ← Checksum.ofBytes_toBytes p.checksum]
      simp only [Checksum.toBytes, List.cons.injEq] at hsum
      rw [hsum.1, hsum.2.1]
    unfold checksum at hchecksum
    rw [hid, hcovered] at hchecksum
    have hbyte := Checksum.eq_of_frame_set_eq hj hchecksum
    simpa [bytes, List.getElem_append_left hj] using hbyte
  · -- what the checksum covers is the same, and so is the checksum
    rw [List.set_append_right _ _ (Nat.le_of_not_lt hj)] at hsame
    obtain ⟨hcovered, _⟩ := List.append_inj hsame hlength
    have hnone : p'.bytes = p.bytes := by
      unfold bytes checksum
      rw [hversion, hcovered, hid, hunsigned, hunsigned']
    rw [hnone] at hbytes
    have hbyte : (p.bytes.set (j + 1) b)[j + 1]? = some b :=
      List.getElem?_set_self hi
    rw [← hbytes, List.getElem?_eq_getElem hi] at hbyte
    exact Option.some.inj hbyte

end Packet

/-! ## Candidates -/

variable {bs : Bytes} {n i : Nat} {p : Packet}

/-- A header announces what it does, whatever has become of the other bytes. -/
theorem Announces.set (h : Announces bs n) (hi : 1 < i)
    (hflags : bs.head? = some 0xFE ∨ 2 < i) (b : UInt8) :
    Announces (bs.set i b) n := by
  cases h with
  | first length rest =>
      obtain ⟨j, rfl⟩ : ∃ j, i = j + 2 := ⟨i - 2, by omega⟩
      exact .first length (rest.set j b)
  | second length flags rest =>
      have hlate : 2 < i := by
        rcases hflags with hfirst | hlate
        · cases hfirst
        · exact hlate
      obtain ⟨j, rfl⟩ : ∃ j, i = j + 3 := ⟨i - 3, by omega⟩
      exact .second length flags (rest.set j b)

/-- A packet is a candidate. -/
theorem candidate_bytes (p : Packet) : Candidate p.bytes := by
  have hstart : p.version.startByte = 0xFE ∨ p.version.startByte = 0xFD := by
    cases p.version
    · exact Or.inl rfl
    · exact Or.inr rfl
  exact (Decoder.announcedLength_eq_some_iff hstart).mp p.announcedLength_bytes

/-- **A packet stays a candidate** when a byte is changed that does not guide
the decoder. -/
theorem candidate_set (hplace : i ∉ p.version.guidingPlaces) (b : UInt8) :
    Candidate (p.bytes.set i b) := by
  have hbytes : p.bytes.head? = some p.version.startByte := rfl
  have hwhole : Announces p.bytes p.bytes.length := candidate_bytes p
  unfold Candidate
  rw [List.length_set]
  unfold Version.guidingPlaces at hplace
  cases hversion : p.version with
  | v1 =>
      rw [hversion] at hbytes hplace
      simp only [List.mem_cons, not_or] at hplace
      exact hwhole.set (by omega) (Or.inl hbytes) b
  | v2 =>
      rw [hversion] at hplace
      simp only [List.mem_cons, not_or] at hplace
      exact hwhole.set (by omega) (Or.inr (by omega)) b

/-- **Nothing is found** in a packet that has one of the other bytes changed, if
no frame of its version can begin behind its first byte. -/
theorem find?_set {b : UInt8} (hplace : i ∉ p.version.guidingPlaces)
    (hunsigned : p.signature = []) (hi : i < p.bytes.length)
    (hchanged : p.bytes[i] ≠ b)
    (hstart : ∀ j, (p.bytes.set i b)[j]? = some p.version.startByte → j = 0) :
    Frame.find? p.version (p.bytes.set i b) = none := by
  cases hfind : Frame.find? p.version (p.bytes.set i b) with
  | none => rfl
  | some f =>
      obtain ⟨skipped, p', rest, hbytes, hversion, _⟩ :=
        exists_packet_of_find? hfind
      have hnone : skipped = [] := by
        apply List.eq_nil_of_length_eq_zero
        apply hstart
        rw [hbytes, List.getElem?_append_right (Nat.le_refl _), Nat.sub_self,
          ← hversion]
        rfl
      rw [hnone, List.nil_append, ← List.append_nil (p.bytes.set i b)] at hbytes
      obtain ⟨hwhole, _⟩ :=
        (candidate_set hplace b).eq_of_append_eq (candidate_bytes p') hbytes
      exact absurd (Packet.eq_of_set hversion hwhole.symm hplace hunsigned hi)
        hchanged

/-- The first byte still tells the version. -/
theorem leadingVersion_set {f : Frame} (hplace : i ∉ f.version.guidingPlaces)
    (b : UInt8) :
    leadingVersion (f.encode.set i b) = f.version := by
  unfold Version.guidingPlaces at hplace
  obtain ⟨version, header, message⟩ := f
  cases version with
  | v1 =>
      obtain ⟨j, rfl⟩ : ∃ j, i = j + 1 := ⟨i - 1, by simp at hplace; omega⟩
      rfl
  | v2 =>
      obtain ⟨j, rfl⟩ : ∃ j, i = j + 1 := ⟨i - 1, by simp at hplace; omega⟩
      rfl

namespace Decoder

/-! ## What is left of it -/

/-- The decoder after one more error. -/
def countError (d : Decoder) : Decoder :=
  { d with stats := { d.stats with parseErrors := d.stats.parseErrors + 1 } }

theorem push_countError (d : Decoder) (b : UInt8) :
    d.countError.push b = ((d.push b).1.countError, (d.push b).2) := by
  unfold push finish countError
  dsimp only
  split
  · rfl
  · split
    · split <;> rfl
    · rfl

/-- **Nothing depends on the count of errors.** -/
theorem pushAll_countError (d : Decoder) (bs : Bytes) :
    d.countError.pushAll bs =
      ((d.pushAll bs).1.countError, (d.pushAll bs).2) := by
  induction bs generalizing d with
  | nil => rfl
  | cons b rest ih => simp only [pushAll, push_countError, ih]

/-- **One changed byte is noticed.**  Take the encoding of a frame that can be
sent, and change one byte of it that says neither where the frame begins and
ends nor which message it is; no frame of the same version may begin behind the
first byte then.  A decoder that is outside a frame gives back nothing for these
bytes and counts one error and nothing else, and it is outside a frame again.
Whatever comes next is answered as if these bytes had not been there, and one
error more has been counted.  So encoded frames that follow all come back in
their order, in whatever calls. -/
theorem changed_byte_noticed {f : Frame} (hf : f.Sendable) {i : Nat}
    (hi : i < f.encode.length) {b : UInt8}
    (hplace : i ∉ f.version.guidingPlaces) (hchanged : f.encode[i] ≠ b)
    (hstart : ∀ j, (f.encode.set i b)[j]? = some f.version.startByte → j = 0)
    {d : Decoder} (houtside : d.buffer = []) :
    let changed := f.encode.set i b
    d.pushAll changed =
        ({ buffer := []
           stats := { d.stats with parseErrors := d.stats.parseErrors + 1 } },
           []) ∧
      (∀ later, d.pushAll (changed ++ later) =
        ((d.pushAll later).1.countError, (d.pushAll later).2)) ∧
      ∀ (frames : List Frame) (calls : List Feed), (∀ g ∈ frames, g.Sendable) →
        calls.flatMap Feed.bytes = changed ++ frames.flatMap Frame.encode →
        (d.feedAll calls).2.flatten = frames ∧
          (d.feedAll calls).1 =
            { buffer := []
              stats := { d.stats with
                frames := d.stats.frames + frames.length
                parseErrors := d.stats.parseErrors + 1 } } := by
  intro changed
  have hbytes := hf.bytes_packet
  have hversion := hf.version_packet
  have hplace' : i ∉ hf.packet.version.guidingPlaces := by rwa [hversion]
  have whole : Candidate changed := by
    have hset := candidate_set hplace' b
    rwa [hbytes] at hset
  have hnothing : (Piece.candidate changed whole).frame? = none := by
    have hfind := find?_set (b := b) hplace' hf.signature_packet
    rw [hversion] at hfind
    simp only [hbytes] at hfind
    rw [Piece.frame?, leadingVersion_set hplace]
    exact hfind hi hchanged hstart
  have herror : d.pushAll changed = (d.countError, []) := by
    obtain ⟨buffer, stats⟩ := d
    obtain rfl : buffer = [] := houtside
    have hpush : pushAll ⟨[], stats⟩ changed =
        (⟨[], (Piece.candidate changed whole).count stats⟩,
          (Piece.candidate changed whole).frame?.toList) :=
      pushAll_completes part_nil whole
    have hcount : (Piece.candidate changed whole).count stats =
        stats.count (Piece.candidate changed whole).frame? := rfl
    rw [hpush, hcount, hnothing]
    rfl
  have hlater (later : Bytes) : d.pushAll (changed ++ later) =
      ((d.pushAll later).1.countError, (d.pushAll later).2) := by
    rw [pushAll_append, herror, pushAll_countError, List.nil_append]
  refine ⟨?_, hlater, fun frames calls hframes hcalls => ?_⟩
  · rw [herror, countError, houtside]
  · obtain ⟨hleft, hanswers⟩ := feedAll_eq d calls
    have hpush := pushAll_frames hframes d.stats
    have hd : d = { buffer := [], stats := d.stats } := by rw [← houtside]
    rw [← hd] at hpush
    rw [hanswers, hleft, hcalls, hlater, hpush]
    exact ⟨rfl, rfl⟩

/-- A heartbeat with one bit of its status turned over is one error, and the
heartbeat that is sent again comes back. -/
theorem changed_heartbeat_noticed :
    ∃ heartbeat : Frame,
      heartbeat = ⟨.v1, ⟨255, 190, 7⟩, Heartbeat.ofGroundStation.toMessage⟩ ∧
      (feedAll {} [.slice (heartbeat.encode.set 13 5),
          .slice heartbeat.encode]).2.flatten = [heartbeat] ∧
      (feedAll {} [.slice (heartbeat.encode.set 13 5),
          .slice heartbeat.encode]).1.stats =
        { frames := 1, parseErrors := 1, discarded := 0 } := by
  refine ⟨⟨.v1, ⟨255, 190, 7⟩, Heartbeat.ofGroundStation.toMessage⟩, rfl, ?_⟩
  generalize hheartbeat :
    (⟨.v1, ⟨255, 190, 7⟩, Heartbeat.ofGroundStation.toMessage⟩ : Frame) =
      heartbeat
  have hsendable : heartbeat.Sendable := by
    rw [← hheartbeat]
    decide +kernel
  have hi : 13 < heartbeat.encode.length := by
    rw [← hheartbeat]
    decide +kernel
  have hplace : 13 ∉ heartbeat.version.guidingPlaces := by
    rw [← hheartbeat]
    decide
  have hold : heartbeat.encode[13]? ≠ some 5 := by
    rw [← hheartbeat]
    decide +kernel
  have hchanged : heartbeat.encode[13] ≠ 5 := fun heq =>
    hold (List.getElem?_eq_some_iff.mpr ⟨hi, heq⟩)
  have hlength : (heartbeat.encode.set 13 5).length = 17 := by
    rw [← hheartbeat]
    decide +kernel
  have hfirst : ∀ j < 17, (heartbeat.encode.set 13 5)[j]? =
      some heartbeat.version.startByte →
      j = 0 := by
    rw [← hheartbeat]
    decide +kernel
  have hstart (j : Nat) (hj : (heartbeat.encode.set 13 5)[j]? =
      some heartbeat.version.startByte) : j = 0 := by
    obtain ⟨hlt, -⟩ := List.getElem?_eq_some_iff.mp hj
    exact hfirst j (hlength ▸ hlt) hj
  have hframes : ∀ g ∈ [heartbeat], g.Sendable := fun g hg => by
    rwa [List.mem_singleton.mp hg]
  obtain ⟨-, -, hback⟩ :=
    changed_byte_noticed hsendable hi hplace hchanged hstart (d := {}) rfl
  obtain ⟨hanswers, hleft⟩ := hback [heartbeat]
    [.slice (heartbeat.encode.set 13 5), .slice heartbeat.encode] hframes
      (by simp [Feed.bytes])
  exact ⟨hanswers, by rw [hleft]; rfl⟩

end Decoder

end GroundLink
