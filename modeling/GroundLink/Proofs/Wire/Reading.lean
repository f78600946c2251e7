import GroundLink.Proofs.Bytes
import GroundLink.Proofs.Dialect.Conform
import GroundLink.Wire.Packet

/-!
# Reading a packet

The bytes of a packet are opened along the lengths that its own header
announces, whatever start bytes or other things stand in the payload
(`open?_bytes`), and the checksum is the one that was put there.  So a packet is
found where it begins (`find?_bytes`), and its header announces its length
(`announcedLength_bytes`).  The other way round, whatever is opened with a right
checksum begins with a packet (`exists_packet_of_open?`) and is one if it has
the length that it announces (`exists_packet_iff`), and whatever is found stands
for a packet somewhere in the bytes (`exists_packet_of_find?`).

An encoded frame is a packet (`bytes_packet`), which stands for that frame
(`frame?_packet`): its payload is the one that was sent, with or without the
zeros at its end.
-/

namespace GroundLink

namespace Checksum

/-- **A checksum is read as it was written.** -/
theorem ofBytes_toBytes (c : UInt16) :
    ofBytes c.toUInt8 (c >>> 8).toUInt8 = c := by
  rw [ofBytes, UInt16.or_comm, Bytes.pair_high_low]

/-- **A checksum is written as it was read.** -/
theorem toBytes_ofBytes (lo hi : UInt8) :
    toBytes (ofBytes lo hi) = [lo, hi] := by
  rw [toBytes, ofBytes, UInt16.or_comm, Bytes.low_pair, Bytes.high_pair]

end Checksum

/-- What a header announces is not changed by what comes after it. -/
theorem announcedLength_append {p : Bytes} {n : Nat}
    (h : announcedLength p = some n) (q : Bytes) :
    announcedLength (p ++ q) = some n := by
  match p with
  | [] => simp [announcedLength] at h
  | [_] => simp [announcedLength] at h
  | start :: length :: rest =>
      simp only [List.cons_append, announcedLength] at h ⊢
      by_cases hversion : start = Version.v1.startByte
      · rw [if_pos hversion] at h ⊢
        exact h
      · rw [if_neg hversion] at h ⊢
        cases rest with
        | nil => simp at h
        | cons flags rest => exact h

/-- The byte that announces a length keeps it. -/
theorem toNat_ofNat_of_le {n : Nat} (h : n ≤ 255) :
    (UInt8.ofNat n).toNat = n := by
  rw [UInt8.toNat_ofNat']
  omega

/-- Bytes between the start byte and the payload. -/
def Version.headerLength : Version → Nat
  | .v1 => 5
  | .v2 => 9

/-! ## Packets -/

namespace Packet

variable (p : Packet)

/-- The packet, taken apart. -/
def envelope : Envelope where
  header := p.header
  id := p.id
  payload := p.payload
  covered := p.covered
  checksum := p.checksum

theorem length_covered :
    p.covered.length = p.version.headerLength + p.payload.length := by
  unfold covered version Version.headerLength
  cases p.framing <;> simp <;> omega

theorem length_bytes :
    p.bytes.length = p.version.headerLength + p.payload.length +
      p.signature.length + 3 := by
  simp only [bytes, List.length_cons, List.length_append, length_covered,
    Checksum.length_toBytes]
  omega

theorem length_bytes_pos : 0 < p.bytes.length := Nat.succ_pos _

/-- **The header of a packet announces its length.** -/
theorem announcedLength_bytes :
    announcedLength p.bytes = some p.bytes.length := by
  rw [length_bytes]
  obtain ⟨framing, header, payload, hle⟩ := p
  have hbyte : (UInt8.ofNat payload.length).toNat = payload.length :=
    toNat_ofNat_of_le hle
  cases framing with
  | v1 id =>
      simp only [bytes, version, covered, signature, List.cons_append,
        announcedLength, if_true, hbyte, Version.headerLength, List.length_nil]
      congr 1
      omega
  | v2 flags compat low middle high sign signed =>
      have hother : Version.v2.startByte ≠ Version.v1.startByte := by decide
      simp only [bytes, version, covered, signature, List.cons_append,
        announcedLength, if_neg hother, hbyte, Version.headerLength, signed,
        Envelope.signatureOf]
      congr 1
      omega

/-- **A packet is opened** into its own parts, whatever comes after it. -/
theorem open?_bytes (rest : Bytes) :
    Envelope.open? p.version (p.bytes.tail ++ rest) = some p.envelope := by
  have htake :
      (p.bytes.tail ++ rest).take (p.version.headerLength + p.payload.length) =
      p.covered := by
    simp only [bytes, List.tail_cons, List.append_assoc]
    exact List.take_left' p.length_covered
  have hread := Checksum.ofBytes_toBytes p.checksum
  simp only [bytes, List.tail_cons, List.append_assoc] at htake ⊢
  unfold envelope
  generalize p.checksum = sum at htake hread ⊢
  obtain ⟨framing, header, payload, hle⟩ := p
  have hbyte : (UInt8.ofNat payload.length).toNat = payload.length :=
    toNat_ofNat_of_le hle
  cases framing with
  | v1 id =>
      simp only [Version.headerLength, version, covered, signature,
        Checksum.toBytes, List.cons_append, List.nil_append] at htake
      simp only [version, covered, signature, Packet.id, Checksum.toBytes,
        List.cons_append, List.nil_append, Envelope.open?, hbyte,
        List.drop_left, List.take_left, hread, htake]
  | v2 flags compat low middle high sign signed =>
      have hsigned : (Envelope.isSigned flags &&
          decide ((sign ++ rest).length < Envelope.signatureLength)) =
            false := by
        cases hflag : Envelope.isSigned flags with
        | false => rfl
        | true => simp [signed, Envelope.signatureOf, hflag]
      simp only [Version.headerLength, version, covered, signature,
        Checksum.toBytes, List.cons_append, List.nil_append] at htake
      simp only [version, covered, signature, Packet.id, Checksum.toBytes,
        List.cons_append, List.nil_append, Envelope.open?, hbyte,
        List.drop_left, List.take_left, hread, htake, hsigned,
        Bool.false_eq_true, if_false]

/-- **A packet is found** where it begins. -/
theorem find?_bytes (rest : Bytes) :
    Frame.find? p.version (p.bytes ++ rest) = p.frame? := by
  have hbytes : p.bytes = p.version.startByte :: p.bytes.tail := rfl
  have hintact : p.envelope.isIntact = true := beq_self_eq_true _
  rw [hbytes, List.cons_append, Frame.find?, if_pos rfl, p.open?_bytes]
  dsimp only
  rw [if_pos hintact]
  rfl

/-- A packet tells its version by its first byte. -/
theorem leadingVersion_bytes : leadingVersion p.bytes = p.version := by
  unfold bytes leadingVersion
  cases p.version <;> rfl

end Packet

/-! ## Where packets come from -/

/-- A body that has two bytes behind those that its length byte announces. -/
theorem eq_take_append_of_drop {body rest : Bytes} {length lo hi : UInt8}
    (h : body.drop length.toNat = lo :: hi :: rest) :
    body = body.take length.toNat ++ lo :: hi :: rest ∧
      (body.take length.toNat).length ≤ 255 ∧
      UInt8.ofNat (body.take length.toNat).length = length := by
  have hlen := congrArg List.length h
  rw [List.length_drop, List.length_cons, List.length_cons] at hlen
  have htake : (body.take length.toNat).length = length.toNat := by
    rw [List.length_take]
    omega
  refine ⟨?_, ?_, ?_⟩
  · rw [← h, List.take_append_drop]
  · have hlt : length.toNat < 256 := length.toNat_lt
    omega
  · rw [htake, UInt8.ofNat_toNat]

/-- An envelope with a right checksum is that of the packet with its parts, and
the packet's bytes are those that were opened. -/
theorem Packet.bytes_of_envelope (p : Packet) {e : Envelope}
    {bytes rest : Bytes} {lo hi : UInt8} (hheader : p.header = e.header)
    (hid : p.id = e.id) (hpayload : p.payload = e.payload)
    (hcovered : p.covered = e.covered)
    (hsum : e.checksum = Checksum.ofBytes lo hi)
    (hbytes : bytes = p.covered ++ lo :: hi :: (p.signature ++ rest))
    (hintact : e.isIntact = true) :
    p.version.startByte :: bytes = p.bytes ++ rest ∧ p.envelope = e := by
  have hchecksum : p.checksum = e.checksum := by
    rw [Packet.checksum, hid, hcovered]
    exact (eq_of_beq hintact).symm
  refine ⟨?_, ?_⟩
  · rw [Packet.bytes, hchecksum, hsum, Checksum.toBytes_ofBytes, hbytes]
    simp only [List.cons_append, List.append_assoc, List.nil_append]
  · unfold Packet.envelope
    rw [hheader, hid, hpayload, hcovered, hchecksum]

/-- As much as the flags announce is there to be the signature. -/
theorem length_take_signature {flags : UInt8} {rest : Bytes}
    (h : ¬(Envelope.isSigned flags && rest.length < Envelope.signatureLength) =
      true) :
    (rest.take (Envelope.signatureOf flags)).length =
      Envelope.signatureOf flags := by
  unfold Envelope.signatureOf
  rw [List.length_take]
  split
  · next hflag =>
      rw [hflag, Bool.true_and, decide_eq_true_eq] at h
      omega
  · omega

/-- **What is opened with a right checksum** is the beginning of a packet. -/
theorem exists_packet_of_open? {version : Version} {bytes : Bytes}
    {e : Envelope} (h : Envelope.open? version bytes = some e)
    (hintact : e.isIntact = true) :
    ∃ (p : Packet) (rest : Bytes), p.version = version ∧
      version.startByte :: bytes = p.bytes ++ rest ∧ p.envelope = e := by
  unfold Envelope.open? at h
  split at h
  · next length sequence system component id body =>
      split at h
      · next lo hi rest hdrop =>
          obtain ⟨hbody, hle, hbyte⟩ := eq_take_append_of_drop hdrop
          let p : Packet :=
            ⟨.v1 id, ⟨system, component, sequence⟩, body.take length.toNat, hle⟩
          have hcovered : p.covered =
              length :: sequence :: system :: component :: id ::
                body.take length.toNat := by
            simp only [p, Packet.covered, hbyte]
          cases h
          refine ⟨p, rest, rfl,
            p.bytes_of_envelope rfl rfl rfl ?_ rfl ?_ hintact⟩
          · simp only [hcovered, Nat.add_comm 5, List.take_succ_cons]
          · rw [hcovered]
            simp only [p, Packet.signature, List.cons_append, List.nil_append,
              ← hbody]
      · cases h
  · next length flags compat sequence system component low middle high body =>
      split at h
      · next lo hi rest hdrop =>
          obtain ⟨hbody, hle, hbyte⟩ := eq_take_append_of_drop hdrop
          split at h
          · cases h
          · next hlong =>
              let signature := rest.take (Envelope.signatureOf flags)
              let p : Packet := ⟨.v2 flags compat low middle high signature
                (length_take_signature hlong), ⟨system, component, sequence⟩,
                body.take length.toNat, hle⟩
              have hcovered : p.covered = length :: flags :: compat ::
                  sequence :: system ::
                  component :: low :: middle :: high ::
                    body.take length.toNat := by
                simp only [p, Packet.covered, hbyte]
              cases h
              refine ⟨p, rest.drop (Envelope.signatureOf flags), rfl,
                p.bytes_of_envelope rfl rfl rfl ?_ rfl ?_ hintact⟩
              · simp only [hcovered, Nat.add_comm 9, List.take_succ_cons]
              · rw [hcovered]
                simp only [p, signature, Packet.signature, List.cons_append,
                  List.take_append_drop, ← hbody]
      · cases h
  · cases h

/-- **The packets** are exactly the runs of bytes that open with a right
checksum and have the length that they announce. -/
theorem exists_packet_iff {bs : Bytes} :
    (∃ p : Packet, p.bytes = bs) ↔
      announcedLength bs = some bs.length ∧
        ∃ (version : Version) (rest : Bytes) (e : Envelope),
          bs = version.startByte :: rest ∧
          Envelope.open? version rest = some e ∧ e.isIntact = true := by
  constructor
  · rintro ⟨p, rfl⟩
    have hopen := p.open?_bytes []
    rw [List.append_nil] at hopen
    exact ⟨p.announcedLength_bytes, p.version, p.bytes.tail, p.envelope,
      rfl, hopen, beq_self_eq_true _⟩
  · rintro ⟨hlength, version, rest, e, rfl, hopen, hintact⟩
    obtain ⟨p, more, _, hbytes, _⟩ := exists_packet_of_open? hopen hintact
    have hmore := announcedLength_append p.announcedLength_bytes more
    rw [hbytes, hmore, Option.some.injEq, List.length_append] at hlength
    have hnone : more = [] := List.eq_nil_of_length_eq_zero (by omega)
    exact ⟨p, by rw [hbytes, hnone, List.append_nil]⟩

/-- **What is found** stands for a packet somewhere in the bytes. -/
theorem exists_packet_of_find? {version : Version} {bytes : Bytes} {f : Frame}
    (h : Frame.find? version bytes = some f) :
    ∃ (skipped : Bytes) (p : Packet) (rest : Bytes),
      bytes = skipped ++ (p.bytes ++ rest) ∧
      p.version = version ∧ p.frame? = some f := by
  induction bytes with
  | nil => cases h
  | cons b bytes ih =>
      have hlater (hrest : Frame.find? version bytes = some f) :
          ∃ (skipped : Bytes) (p : Packet) (rest : Bytes),
            b :: bytes = skipped ++ (p.bytes ++ rest) ∧ p.version = version ∧
              p.frame? = some f := by
        obtain ⟨skipped, p, rest, hbytes, hversion, hframe⟩ := ih hrest
        exact ⟨b :: skipped, p, rest, congrArg (b :: ·) hbytes,
          hversion, hframe⟩
      unfold Frame.find? at h
      split at h
      · next hstart =>
          split at h
          · cases h
          · next e hopen =>
              split at h
              · next hintact =>
                  obtain ⟨p, rest, rfl, hbytes, rfl⟩ :=
                    exists_packet_of_open? hopen hintact
                  exact ⟨[], p, rest, by rw [hstart]; exact hbytes, rfl, h⟩
              · exact hlater h
      · exact hlater h

/-! ## Frames that are sent -/

namespace Frame

/-- The frame can be sent: its message is well formed, and its number has room
in the first version if that is used. -/
structure Sendable (f : Frame) : Prop where
  message : f.message.WellFormed
  id : f.version = .v1 → f.message.id ≤ 255

instance (f : Frame) : Decidable f.Sendable :=
  decidable_of_iff
    (f.message.WellFormed ∧ (f.version = .v1 → f.message.id ≤ 255))
    ⟨fun h => ⟨h.1, h.2⟩, fun h => ⟨h.message, h.id⟩⟩

/-- The payload as it is sent. -/
def sent (f : Frame) : Bytes :=
  match f.version with
  | .v1 => f.message.payload
  | .v2 => trim f.message.payload

theorem trim_fit {payload : Bytes} (h : 1 ≤ payload.length) :
    Bytes.fit payload.length (trim payload) = payload ∧
    1 ≤ (trim payload).length ∧
      (trim payload).length ≤ payload.length := by
  have hsplit := Bytes.dropTrailingZeros_append payload
  unfold Frame.trim
  split
  · next hnone =>
      -- all zeros: only the first of them is sent
      rw [hnone, List.nil_append] at hsplit
      obtain ⟨n, hzeros⟩ : ∃ n, payload = List.replicate n 0 := ⟨_, hsplit⟩
      subst hzeros
      rw [List.length_replicate] at h
      have hone : min 1 n = 1 := Nat.min_eq_left h
      simp only [Bytes.fit, List.take_replicate, List.length_replicate, hone]
      refine ⟨?_, by omega, h⟩
      rw [List.replicate_append_replicate]
      congr 1
      omega
  · next hkept =>
      have hlen := congrArg List.length hsplit
      rw [List.length_append, List.length_replicate] at hlen
      refine ⟨?_, ?_, by omega⟩
      · unfold Bytes.fit
        rw [List.take_of_length_le (by omega)]
        exact hsplit.symm
      · exact List.length_pos_iff.mpr hkept

variable {f : Frame}

theorem Sendable.length_sent (h : f.Sendable) : f.sent.length ≤ 255 := by
  obtain ⟨_, hmin, hmax⟩ := h.message.bounds
  unfold sent
  cases f.version with
  | v1 => exact hmax
  | v2 =>
      obtain ⟨_, _, hle⟩ := trim_fit hmin
      exact Nat.le_trans hle hmax

/-- What a frame that is sent has beside header and payload: no flags and no
signature. -/
def framing (f : Frame) : Framing :=
  match f.version with
  | .v1 => .v1 (UInt8.ofNat f.message.id)
  | .v2 =>
      .v2 0 0 (UInt8.ofNat f.message.id) (UInt8.ofNat (f.message.id / 256))
        (UInt8.ofNat (f.message.id / 256 / 256)) [] (by decide)

/-- The packet that a frame is sent as. -/
def Sendable.packet (h : f.Sendable) : Packet :=
  ⟨f.framing, f.header, f.sent, h.length_sent⟩

theorem Sendable.version_packet (h : f.Sendable) :
    h.packet.version = f.version := by
  unfold packet Packet.version framing
  cases f.version <;> rfl

theorem Sendable.id_packet (h : f.Sendable) : h.packet.id = f.message.id := by
  obtain ⟨hid, _, _⟩ := h.message.bounds
  have hfirst := h.id
  unfold packet Packet.id framing
  cases hversion : f.version with
  | v1 => exact toNat_ofNat_of_le (hfirst hversion)
  | v2 =>
      have hread := Bytes.leValue_ofLe 3 f.message.id
      rw [Nat.mod_eq_of_lt hid] at hread
      exact hread

theorem Sendable.covered_packet (h : f.Sendable) :
    h.packet.covered = f.covered := by
  obtain ⟨version, header, message⟩ := f
  cases version <;> rfl

theorem Sendable.signature_packet (h : f.Sendable) :
    h.packet.signature = [] := by
  unfold packet Packet.signature framing
  cases f.version <;> rfl

/-- **An encoded frame is a packet.** -/
theorem Sendable.bytes_packet (h : f.Sendable) : h.packet.bytes = f.encode := by
  rw [Packet.bytes, Packet.checksum, h.version_packet, h.id_packet,
    h.covered_packet, h.signature_packet, List.append_nil]
  rfl

/-- It stands for that frame. -/
theorem Sendable.frame?_packet (h : f.Sendable) : h.packet.frame? = some f := by
  obtain ⟨_, hmin, _⟩ := h.message.bounds
  refine (Packet.frame?_eq_some_iff _).mpr ⟨h.version_packet.symm, rfl, ?_⟩
  rw [h.id_packet]
  apply h.message.parse_of_fit
  show Bytes.fit f.message.payload.length f.sent = f.message.payload
  unfold sent
  cases f.version with
  | v1 => exact Bytes.fit_of_length rfl
  | v2 => exact (trim_fit hmin).1

end Frame

end GroundLink
