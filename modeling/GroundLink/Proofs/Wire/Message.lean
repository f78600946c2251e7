import GroundLink.Proofs.Dialect.Conform

/-!
# The messages that a station makes

A station makes two kinds of messages itself.  A heartbeat says everything
that it was made of (`Heartbeat.heartbeat?_toMessage`), and it is well formed
just if the dialect knows its kind, its autopilot and its state
(`Heartbeat.wellFormed_toMessage_iff`).  A status text holds all its bytes or
is not made at all.
-/

namespace GroundLink

namespace Dialect.Field

variable {offset width : Nat} {name : String} {payload : Bytes}

/-- An enumeration without gaps admits its values up to the last one. -/
theorem admits_upTo {last : Nat} :
    (⟨offset, width, .oneOf name [(0, last)]⟩ : Field).Admits payload ↔
      (⟨offset, width, .oneOf name [(0, last)]⟩ : Field).value payload ≤
        last := by
  simp [Admits, inSpans]

/-- Flags are admitted as long as none of them is unknown. -/
theorem admits_within {mask : Nat} :
    (⟨offset, width, .within name mask⟩ : Field).Admits payload ↔
      (⟨offset, width, .within name mask⟩ : Field).value payload &&& mask =
        (⟨offset, width, .within name mask⟩ : Field).value payload :=
  Iff.rfl

end Dialect.Field

namespace Heartbeat

variable {hb : Heartbeat}

/-- The dialect knows what speaks, what flies it and how it fares.  Any mode
will do: the mode of the vehicle is its own affair, and every bit of the base
mode is a flag. -/
structure Known (hb : Heartbeat) : Prop where
  kind : hb.kind ≤ 42
  autopilot : hb.autopilot ≤ 20
  status : hb.status ≤ 8

/-- An autopilot is known in any mode. -/
theorem known_ofAutopilot (mode : UInt32) : (ofAutopilot mode).Known where
  kind := UInt8.zero_le
  autopilot := UInt8.zero_le
  status := (by decide : (4 : UInt8) ≤ 8)

theorem known_ofCamera : ofCamera.Known := ⟨by decide, by decide, by decide⟩

/-- **A heartbeat reads as what it was made of.** -/
theorem heartbeat?_toMessage (hb : Heartbeat) :
    hb.toMessage.heartbeat? = some hb := by
  have hmode : UInt32.ofNat (Bytes.leValue (Bytes.ofLe 4 hb.customMode.toNat)) =
      hb.customMode := by
    have hlt : hb.customMode.toNat < 256 ^ 4 := hb.customMode.toNat_lt
    rw [Bytes.leValue_ofLe, Nat.mod_eq_of_lt hlt, UInt32.ofNat_toNat]
  have htake : hb.toMessage.payload.take 4 = Bytes.ofLe 4 hb.customMode.toNat :=
    List.take_left' (Bytes.length_ofLe 4 _)
  have hrest : Bytes.slice 4 5 hb.toMessage.payload =
      [hb.kind, hb.autopilot, hb.baseMode, hb.status, hb.version] := by
    unfold Bytes.slice toMessage
    rw [List.drop_left' (Bytes.length_ofLe 4 _)]
    rfl
  unfold Message.heartbeat?
  rw [htake, hrest, hmode]
  rfl

/-- Where the values of a heartbeat stand: behind the four bytes of the mode. -/
theorem value_toMessage (hb : Heartbeat) (c : Dialect.Constraint) :
    (⟨4, 1, c⟩ : Dialect.Field).value hb.toMessage.payload = hb.kind.toNat ∧
      (⟨5, 1, c⟩ : Dialect.Field).value hb.toMessage.payload =
        hb.autopilot.toNat ∧
      (⟨6, 1, c⟩ : Dialect.Field).value hb.toMessage.payload =
        hb.baseMode.toNat ∧
      (⟨7, 1, c⟩ : Dialect.Field).value hb.toMessage.payload =
        hb.status.toNat := by
  simp [Dialect.Field.value, toMessage, Bytes.slice, Bytes.ofLe, Bytes.leValue]

/-- **A heartbeat is well formed** just if the dialect knows its values. -/
theorem wellFormed_toMessage_iff : hb.toMessage.WellFormed ↔ hb.Known := by
  let kind : Dialect.MessageKind := ⟨0, "HEARTBEAT", 50, 9,
    [⟨4, 1, Dialect.mavType⟩, ⟨5, 1, Dialect.mavAutopilot⟩,
      ⟨6, 1, Dialect.mavModeFlag⟩, ⟨7, 1, Dialect.mavState⟩]⟩
  have hlookup : Dialect.lookup Message.heartbeatId = some kind := by
    decide +kernel
  -- one byte of flags, and eight of them: none is unknown
  have hflags : hb.baseMode.toNat &&& 255 = hb.baseMode.toNat := by
    have hlt : hb.baseMode.toNat < 2 ^ 8 := hb.baseMode.toNat_lt
    exact (Nat.and_two_pow_sub_one_eq_mod _ 8).trans (Nat.mod_eq_of_lt hlt)
  have hadmits : (∀ f ∈ kind.fields, f.Admits hb.toMessage.payload) ↔
      hb.kind.toNat ≤ 42 ∧ hb.autopilot.toNat ≤ 20 ∧ hb.status.toNat ≤ 8 := by
    simp [kind, Dialect.mavType, Dialect.mavAutopilot, Dialect.mavModeFlag,
      Dialect.mavState, Dialect.Field.admits_upTo, Dialect.Field.admits_within,
      value_toMessage, hflags]
  constructor
  · rintro ⟨found, hfound, hgood⟩
    obtain rfl : kind = found := Option.some.inj (hlookup.symm.trans hfound)
    obtain ⟨hkind, hautopilot, hstatus⟩ := hadmits.mp hgood.fields
    exact ⟨hkind, hautopilot, hstatus⟩
  · intro h
    have hlength : hb.toMessage.payload.length = 9 := by simp [toMessage]
    exact ⟨kind, hlookup, hlength,
      hadmits.mpr ⟨h.kind, h.autopilot, h.status⟩⟩

/-- **A known heartbeat is its own parse.** -/
theorem Known.valid (h : hb.Known) : hb.toMessage.Valid :=
  (wellFormed_toMessage_iff.mpr h).valid

end Heartbeat

namespace Message

variable {severity : UInt8} {text : String}

/-- A text of at most fifty bytes is sent in full, filled up with zeros. -/
theorem statusText?_of_short (severity : UInt8)
    (h : text.toUTF8.toList.length ≤ maxStatusText) :
    statusText? severity text =
      some ⟨statusTextId, severity :: (text.toUTF8.toList ++
        List.replicate (maxStatusText - text.toUTF8.toList.length) 0)⟩ := by
  unfold statusText?
  rw [if_pos h, Bytes.fit, List.take_of_length_le h]

/-- A longer one is not sent at all. -/
theorem statusText?_of_long (severity : UInt8)
    (h : maxStatusText < text.toUTF8.toList.length) :
    statusText? severity text = none := by
  unfold statusText?
  exact if_neg (Nat.not_le.mpr h)

/-- **A status text is well formed** if its severity is one that there is. -/
theorem wellFormed_statusText {m : Message} (hseverity : severity ≤ 7)
    (hm : statusText? severity text = some m) : m.WellFormed := by
  have hlookup : Dialect.lookup statusTextId =
      some ⟨253, "STATUSTEXT", 83, 51, [⟨0, 1, Dialect.mavSeverity⟩]⟩ := by
    decide +kernel
  by_cases hshort : text.toUTF8.toList.length ≤ maxStatusText
  · rw [statusText?_of_short severity hshort] at hm
    obtain rfl := Option.some.inj hm
    refine ⟨_, hlookup, ?_, ?_⟩
    · -- one byte of severity, and fifty of text and zeros
      have hfull : text.toUTF8.toList.length +
          (maxStatusText - text.toUTF8.toList.length) = 50 :=
        Nat.add_sub_cancel' hshort
      simpa using hfull
    · intro f hf
      obtain rfl := List.mem_singleton.mp hf
      apply Dialect.Field.admits_upTo.mpr
      simpa [Dialect.Field.value, Bytes.slice, Bytes.leValue]
        using UInt8.le_iff_toNat_le.mp hseverity
  · rw [statusText?_of_long severity (Nat.lt_of_not_le hshort)] at hm
    cases hm

end Message

end GroundLink
