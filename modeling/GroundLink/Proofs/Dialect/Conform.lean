import GroundLink.Wire.Message
import Mathlib.Algebra.GroupWithZero.Nat
import Mathlib.Data.List.TakeWhile

/-!
# Well-formed messages

A message is well formed (`Message.WellFormed`) if its number is in the dialect,
its payload has the full length, every enumerated field holds a value of its
enumeration, and every set of flags stays inside its mask.  Reading such a
payload changes nothing:

* `leValue_ofLe`, `ofLe_leValue` — a field is read as it was written, and back;
* `conform_of_admits` — a payload in good form is its own good form;
* `WellFormed.valid` — a well-formed message is its own parse.

The lengths and numbers that the wire format has room for are facts about the
whole catalogue (`messages_fit`).
-/

namespace GroundLink

namespace Bytes

/-- A field of so many bytes stays below the bound that they set. -/
theorem leValue_lt (bs : Bytes) : leValue bs < 256 ^ bs.length := by
  induction bs with
  | nil => simp [leValue]
  | cons b rest ih =>
      have hb : b.toNat < 256 := b.toNat_lt
      simp only [leValue, List.length_cons, Nat.pow_succ]
      omega

/-- **Reading undoes writing**, up to the width of the field. -/
theorem leValue_ofLe (width n : Nat) :
    leValue (ofLe width n) = n % 256 ^ width := by
  induction width generalizing n with
  | zero => simp [ofLe, leValue, Nat.mod_one]
  | succ width ih =>
      have hb : (UInt8.ofNat n).toNat = n % 256 := by simp
      rw [ofLe, leValue, ih, hb, Nat.pow_succ, Nat.mul_comm (256 ^ width) 256,
        Nat.mod_mul]

/-- **Writing undoes reading**, for a field of any bytes. -/
theorem ofLe_leValue (bs : Bytes) : ofLe bs.length (leValue bs) = bs := by
  induction bs with
  | nil => rfl
  | cons b rest ih =>
      have hb : b.toNat < 256 := b.toNat_lt
      have hlow : UInt8.ofNat (b.toNat + 256 * leValue rest) = b := by
        apply UInt8.toNat_inj.mp
        rw [UInt8.toNat_ofNat']
        omega
      have hhigh : (b.toNat + 256 * leValue rest) / 256 = leValue rest := by
        omega
      rw [List.length_cons, leValue, ofLe, hlow, hhigh, ih]

/-- A field that lies in the payload has its own width. -/
theorem length_slice {offset width : Nat} {bs : Bytes}
    (h : offset + width ≤ bs.length) :
    (slice offset width bs).length = width := by
  simp only [slice, List.length_take, List.length_drop]
  omega

/-- Putting a field back where it was changes nothing. -/
theorem splice_slice {offset width : Nat} {bs : Bytes}
    (h : offset + width ≤ bs.length) :
    splice offset (slice offset width bs) bs = bs := by
  have hlen := length_slice h
  unfold splice
  rw [hlen]
  unfold slice
  rw [← List.drop_drop, List.append_assoc, List.take_append_drop,
    List.take_append_drop]

/-- Bytes of full length are left alone. -/
theorem fit_of_length {n : Nat} {bs : Bytes} (h : bs.length = n) :
    fit n bs = bs := by
  subst h
  simp [fit]

/-- What is lost of a run of bytes with the zeros at its end is zeros. -/
theorem dropTrailingZeros_append (bs : Bytes) :
    bs = dropTrailingZeros bs ++
      List.replicate (bs.length - (dropTrailingZeros bs).length) 0 := by
  have hsplit := List.takeWhile_append_dropWhile (p := fun b : UInt8 => b == 0)
      (l := bs.reverse)
  have hzeros : bs.reverse.takeWhile (fun b : UInt8 => b == 0) =
      List.replicate
        (bs.reverse.takeWhile (fun b : UInt8 => b == 0)).length 0 := by
    apply List.eq_replicate_of_mem
    intro b hb
    simpa using List.mem_takeWhile_imp hb
  have hbs : bs = dropTrailingZeros bs ++
      (bs.reverse.takeWhile (fun b : UInt8 => b == 0)).reverse := by
    have hrev := congrArg List.reverse hsplit
    rw [List.reverse_append, List.reverse_reverse] at hrev
    exact hrev.symm
  have hlen := congrArg List.length hbs
  rw [List.length_append, List.length_reverse] at hlen
  have hcount : bs.length - (dropTrailingZeros bs).length =
      (bs.reverse.takeWhile (fun b : UInt8 => b == 0)).length := by omega
  rw [hcount, ← List.reverse_replicate, ← hzeros]
  exact hbs

end Bytes

namespace Dialect

/-- The field holds what it may hold: a value of its enumeration, or no unknown
flags. -/
def Field.Admits (f : Field) (payload : Bytes) : Prop :=
  match f.constraint with
  | .oneOf _ spans => inSpans spans (f.value payload) = true
  | .within _ mask => f.value payload &&& mask = f.value payload

instance (f : Field) (payload : Bytes) : Decidable (f.Admits payload) := by
  unfold Field.Admits
  exact match f.constraint with
    | .oneOf _ _ => inferInstance
    | .within _ _ => inferInstance

/-- The payload has the full length, and every field holds what it may hold. -/
structure MessageKind.Admits (k : MessageKind) (payload : Bytes) : Prop where
  length : payload.length = k.length
  fields : ∀ f ∈ k.fields, f.Admits payload

instance (k : MessageKind) (payload : Bytes) : Decidable (k.Admits payload) :=
  decidable_of_iff
    (payload.length = k.length ∧ ∀ f ∈ k.fields, f.Admits payload)
    ⟨fun h => ⟨h.1, h.2⟩, fun h => ⟨h.length, h.fields⟩⟩

/-- The fields of a message lie in its payload, and number and length have room
in a frame. -/
def MessageKind.Fits (k : MessageKind) : Prop :=
  k.id < 256 ^ 3 ∧ 1 ≤ k.length ∧ k.length ≤ 255 ∧
    ∀ f ∈ k.fields, f.offset + f.width ≤ k.length

instance (k : MessageKind) : Decidable k.Fits := by
  unfold MessageKind.Fits
  infer_instance

/-- Every message of the dialect fits. -/
theorem messages_fit : ∀ k ∈ messages, k.Fits := by decide +kernel

/-- What `lookup` finds is in the dialect under that number. -/
theorem lookup_eq_some {id : Nat} {k : MessageKind} (h : lookup id = some k) :
    k.id = id ∧ k.Fits := by
  have hmem := List.mem_of_find?_eq_some h
  have hid := List.find?_some h
  exact ⟨by simpa using hid, messages_fit k hmem⟩

/-- A field in good form is left alone. -/
theorem Field.conform_of_admits {f : Field} {payload : Bytes}
    (h : f.Admits payload) (hlies : f.offset + f.width ≤ payload.length) :
    f.conform payload = .ok payload := by
  unfold Field.Admits at h
  unfold Field.conform
  dsimp only
  split
  · next name spans heq =>
      rw [heq] at h
      rw [if_pos h]
  · next name mask heq =>
      rw [heq] at h
      have hvalue : Bytes.ofLe f.width (f.value payload) =
          Bytes.slice f.offset f.width payload := by
        have hread := Bytes.ofLe_leValue (Bytes.slice f.offset f.width payload)
        rw [Bytes.length_slice hlies] at hread
        exact hread
      dsimp only at h
      rw [h, hvalue, Bytes.splice_slice hlies]

/-- Fields that hold what they may are left as they are. -/
theorem conformFields_of_admits {fields : List Field} {payload : Bytes}
    (h : ∀ f ∈ fields, f.Admits payload ∧ f.offset + f.width ≤ payload.length) :
    conformFields fields payload = .ok payload := by
  induction fields with
  | nil => rfl
  | cons f rest ih =>
      obtain ⟨hadmits, hlies⟩ := h f List.mem_cons_self
      have hrest := ih fun f' hf' => h f' (List.mem_cons_of_mem f hf')
      rw [conformFields, Field.conform_of_admits hadmits hlies]
      exact hrest

/-- **A payload in good form** is its own good form. -/
theorem MessageKind.conform_of_admits {k : MessageKind} (hfits : k.Fits)
    {payload : Bytes} (h : k.Admits payload) :
    k.conform payload = .ok payload := by
  obtain ⟨_, _, _, hlies⟩ := hfits
  unfold MessageKind.conform
  rw [Bytes.fit_of_length h.length]
  apply conformFields_of_admits
  intro f hf
  refine ⟨h.fields f hf, ?_⟩
  rw [h.length]
  exact hlies f hf

end Dialect

namespace Message

/-- A message of the dialect with a payload in good form. -/
def WellFormed (m : Message) : Prop :=
  ∃ k, Dialect.lookup m.id = some k ∧ k.Admits m.payload

instance (m : Message) : Decidable m.WellFormed :=
  match h : Dialect.lookup m.id with
  | none => isFalse fun ⟨_, hk, _⟩ => nomatch h.symm.trans hk
  | some k =>
      decidable_of_iff (k.Admits m.payload)
        ⟨fun hadmits => ⟨k, h, hadmits⟩,
          fun ⟨_, hk, hadmits⟩ => Option.some.inj (h.symm.trans hk) ▸ hadmits⟩

/-- Number and payload of a well-formed message have room in a frame. -/
theorem WellFormed.bounds {m : Message} (h : m.WellFormed) :
    m.id < 256 ^ 3 ∧ 1 ≤ m.payload.length ∧ m.payload.length ≤ 255 := by
  obtain ⟨k, hk, hadmits⟩ := h
  obtain ⟨hid, hbound, hmin, hmax, _⟩ := Dialect.lookup_eq_some hk
  rw [hadmits.length, ← hid]
  exact ⟨hbound, hmin, hmax⟩

/-- **A payload that is a well-formed one but for zeros at its end** is read as
that one. -/
theorem WellFormed.parse_of_fit {m : Message} (h : m.WellFormed)
    {payload : Bytes} (hfit : Bytes.fit m.payload.length payload = m.payload) :
    parse m.id payload = .ok m := by
  obtain ⟨k, hk, hadmits⟩ := h
  obtain ⟨_, hfits⟩ := Dialect.lookup_eq_some hk
  have hconform := Dialect.MessageKind.conform_of_admits hfits hadmits
  unfold Dialect.MessageKind.conform at hconform
  rw [hadmits.length] at hfit
  rw [Bytes.fit_of_length hadmits.length] at hconform
  unfold parse
  rw [hk]
  dsimp only
  unfold Dialect.MessageKind.conform
  rw [hfit, hconform]

/-- **A well-formed message is its own parse.** -/
theorem WellFormed.valid {m : Message} (h : m.WellFormed) : m.Valid :=
  h.parse_of_fit (Bytes.fit_of_length rfl)

end Message

end GroundLink
