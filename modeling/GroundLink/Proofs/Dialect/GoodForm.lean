import GroundLink.Proofs.Dialect.Conform

/-!
# What comes of reading a payload

Any bytes can be read as the payload of a message.  What is missing is zero and
what is too much is cut; then the fields are looked at in turn.  No two fields
of a message of the dialect share a byte (`fields_apart`), so that what is done
to one of them says nothing about the others:

* `conformFields_eq_ok` — in the outcome every field holds what it may hold;
* `exists_conformFields_iff` — there is an outcome exactly if every enumerated
  field holds one of its values to begin with;
* `Message.wellFormed_of_parse` — so a message that comes of reading is well
  formed, whatever was read, and is its own parse.
-/

namespace GroundLink

namespace Bytes

variable {offset width i : Nat} {field bs : Bytes}

/-- The bytes of a slice are those from its offset on. -/
theorem getElem?_slice (offset width : Nat) (bs : Bytes) (i : Nat) :
    (slice offset width bs)[i]? =
      if i < width then bs[offset + i]? else none := by
  rw [slice, List.getElem?_take, List.getElem?_drop]

/-- What stands at each place after a field has been overwritten. -/
theorem getElem?_splice (h : offset + field.length ≤ bs.length) (i : Nat) :
    (splice offset field bs)[i]? =
      if i < offset then bs[i]?
      else if i < offset + field.length then field[i - offset]?
        else bs[i]? := by
  have htake : (bs.take offset).length = offset := by
    rw [List.length_take]
    omega
  rw [splice, List.append_assoc, List.getElem?_append, htake]
  by_cases hbefore : i < offset
  · rw [if_pos hbefore, if_pos hbefore, List.getElem?_take, if_pos hbefore]
  · rw [if_neg hbefore, if_neg hbefore, List.getElem?_append]
    by_cases hwithin : i < offset + field.length
    · have hlt : i - offset < field.length := by omega
      rw [if_pos hlt, if_pos hwithin]
    · have hnot : ¬i - offset < field.length := by omega
      have hindex : offset + field.length + (i - offset - field.length) =
          i := by omega
      rw [if_neg hnot, if_neg hwithin, List.getElem?_drop, hindex]

/-- To write over bytes that are there keeps the length. -/
theorem length_splice (h : offset + field.length ≤ bs.length) :
    (splice offset field bs).length = bs.length := by
  simp only [splice, List.length_append, List.length_take, List.length_drop]
  omega

/-- A field that has been overwritten is what was put there. -/
theorem slice_splice_self (h : offset + field.length ≤ bs.length) :
    slice offset field.length (splice offset field bs) = field := by
  apply List.ext_getElem?
  intro i
  rw [getElem?_slice, getElem?_splice h]
  by_cases hi : i < field.length
  · have hbefore : ¬offset + i < offset := by omega
    have hwithin : offset + i < offset + field.length := by omega
    have hindex : offset + i - offset = i := by omega
    rw [if_pos hi, if_neg hbefore, if_pos hwithin, hindex]
  · rw [if_neg hi, List.getElem?_eq_none (by omega)]

/-- Overwriting one field leaves every other one alone. -/
theorem slice_splice_of_apart {start : Nat}
    (h : start + field.length ≤ bs.length)
    (hapart : offset + width ≤ start ∨ start + field.length ≤ offset) :
    slice offset width (splice start field bs) = slice offset width bs := by
  apply List.ext_getElem?
  intro i
  rw [getElem?_slice, getElem?_slice, getElem?_splice h]
  by_cases hi : i < width
  · rw [if_pos hi, if_pos hi]
    rcases hapart with hbelow | habove
    · have hbefore : offset + i < start := by omega
      rw [if_pos hbefore]
    · have hbefore : ¬offset + i < start := by omega
      have hwithin : ¬offset + i < start + field.length := by omega
      rw [if_neg hbefore, if_neg hwithin]
  · rw [if_neg hi, if_neg hi]

end Bytes

namespace Dialect

/-- The fields share no byte. -/
def Field.Apart (f g : Field) : Prop :=
  f.offset + f.width ≤ g.offset ∨ g.offset + g.width ≤ f.offset

instance (f g : Field) : Decidable (f.Apart g) :=
  inferInstanceAs (Decidable (_ ∨ _))

theorem Field.Apart.symm {f g : Field} (h : f.Apart g) : g.Apart f := Or.symm h

/-- **No two fields of a message share a byte.** -/
theorem fields_apart :
    ∀ k ∈ messages, k.fields.Pairwise Field.Apart := by decide +kernel

/-- The field, if it is an enumerated one, holds one of its values. -/
def Field.Permits (f : Field) (payload : Bytes) : Prop :=
  ∀ name spans, f.constraint = .oneOf name spans →
    inSpans spans (f.value payload) = true

/-- Every enumerated field of the payload, brought to its full length, holds one
of its values. -/
def MessageKind.Permits (k : MessageKind) (payload : Bytes) : Prop :=
  ∀ f ∈ k.fields, f.Permits (Bytes.fit k.length payload)

/-- The payloads have the same in the field. -/
def Field.SameIn (f : Field) (payload payload' : Bytes) : Prop :=
  Bytes.slice f.offset f.width payload' = Bytes.slice f.offset f.width payload

variable {f g : Field} {fields : List Field} {payload payload' : Bytes}

/-- The same bytes are the same value. -/
theorem Field.SameIn.value (h : f.SameIn payload payload') :
    f.value payload' = f.value payload := congrArg Bytes.leValue h

/-- A field admits the same bytes again. -/
theorem Field.SameIn.admits (h : f.SameIn payload payload')
    (hadmits : f.Admits payload) :
    f.Admits payload' := by
  unfold Field.Admits at hadmits ⊢
  rw [h.value]
  exact hadmits

/-- Whether a field permits a payload can be seen in its own bytes. -/
theorem Field.SameIn.permits_iff (h : f.SameIn payload payload') :
    f.Permits payload' ↔ f.Permits payload := by
  unfold Field.Permits
  rw [h.value]

/-! ## One field -/

/-- **One field**, if there is an outcome: its length is kept, the field holds
what it may hold, and no other one is touched. -/
theorem Field.conform_eq_ok (hlies : f.offset + f.width ≤ payload.length)
    (h : f.conform payload = .ok payload') :
    payload'.length = payload.length ∧ f.Admits payload' ∧
      ∀ g : Field, f.Apart g → g.SameIn payload payload' := by
  cases hconstraint : f.constraint with
  | oneOf name spans =>
      simp only [Field.conform, hconstraint] at h
      split at h
      · next hgood =>
          cases h
          refine ⟨rfl, ?_, fun _ _ => rfl⟩
          simpa only [Field.Admits, hconstraint] using hgood
      · cases h
  | within name mask =>
      simp only [Field.conform, hconstraint] at h
      cases h
      generalize hkept : f.value payload &&& mask = kept
      have hwidth : (Bytes.ofLe f.width kept).length = f.width :=
        Bytes.length_ofLe _ _
      have hbound : f.offset + (Bytes.ofLe f.width kept).length ≤
          payload.length := by
        rwa [hwidth]
      -- what is kept of the flags has room in the field, since all of them had
      have hroom : kept < 256 ^ f.width := by
        have hvalue := Bytes.leValue_lt (Bytes.slice f.offset f.width payload)
        rw [Bytes.length_slice hlies] at hvalue
        have hle : kept ≤ f.value payload := hkept ▸ Nat.and_le_left
        exact Nat.lt_of_le_of_lt hle hvalue
      have hself := Bytes.slice_splice_self hbound
      rw [hwidth] at hself
      have hread : f.value
          (Bytes.splice f.offset (Bytes.ofLe f.width kept) payload) = kept := by
        rw [Field.value, hself, Bytes.leValue_ofLe, Nat.mod_eq_of_lt hroom]
      refine ⟨Bytes.length_splice hbound, ?_, ?_⟩
      · simp only [Field.Admits, hconstraint, hread]
        rw [← hkept, Nat.and_assoc, Nat.and_self]
      · intro g hapart
        exact Bytes.slice_splice_of_apart hbound
          (by rw [hwidth]; exact hapart.symm)

/-- There is an outcome exactly if the field is permitted. -/
theorem Field.exists_conform_iff :
    (∃ payload', f.conform payload = .ok payload') ↔ f.Permits payload := by
  cases hconstraint : f.constraint with
  | oneOf name spans =>
      simp only [Field.conform, Field.Permits, hconstraint,
        Constraint.oneOf.injEq]
      by_cases hgood : inSpans spans (f.value payload) = true
      · simp [hgood]
      · simp [hgood]
  | within name mask => simp [Field.conform, Field.Permits, hconstraint]

/-! ## All fields -/

/-- **All fields in turn**, if there is an outcome: every one of them holds what
it may hold in the end. -/
theorem conformFields_eq_ok
    (hlies : ∀ f ∈ fields, f.offset + f.width ≤ payload.length)
    (hapart : fields.Pairwise Field.Apart)
    (h : conformFields fields payload = .ok payload') :
    payload'.length = payload.length ∧ (∀ f ∈ fields, f.Admits payload') ∧
      ∀ g : Field, (∀ f ∈ fields, f.Apart g) → g.SameIn payload payload' := by
  induction fields generalizing payload with
  | nil =>
      cases h
      exact ⟨rfl, by simp, fun _ _ => rfl⟩
  | cons f rest ih =>
      obtain ⟨hfirst, hrest⟩ := List.pairwise_cons.mp hapart
      unfold conformFields at h
      split at h
      · cases h
      · next payload₁ hconform =>
          obtain ⟨hlen, hadmits, hothers⟩ :=
            Field.conform_eq_ok (hlies f List.mem_cons_self) hconform
          have hlies' : ∀ g ∈ rest, g.offset + g.width ≤ payload₁.length := by
            intro g hg
            rw [hlen]
            exact hlies g (List.mem_cons_of_mem f hg)
          obtain ⟨hlen', hadmits', hothers'⟩ := ih hlies' hrest h
          refine ⟨hlen'.trans hlen, ?_, ?_⟩
          · intro g hg
            rcases List.mem_cons.mp hg with rfl | hg
            · -- what comes later does not touch the first field any more
              exact (hothers' g fun g' hg' =>
                  (hfirst g' hg').symm).admits hadmits
            · exact hadmits' g hg
          · intro g hg
            have hstep := hothers g (hg f List.mem_cons_self)
            have hlater := hothers' g fun g' hg' =>
              hg g' (List.mem_cons_of_mem f hg')
            exact hlater.trans hstep

/-- There is an outcome exactly if every field is permitted to begin with. -/
theorem exists_conformFields_iff
    (hlies : ∀ f ∈ fields, f.offset + f.width ≤ payload.length)
    (hapart : fields.Pairwise Field.Apart) :
    (∃ payload', conformFields fields payload = .ok payload') ↔
      ∀ f ∈ fields, f.Permits payload := by
  induction fields generalizing payload with
  | nil => simp [conformFields]
  | cons f rest ih =>
      obtain ⟨hfirst, hrest⟩ := List.pairwise_cons.mp hapart
      rw [List.forall_mem_cons, ← Field.exists_conform_iff]
      unfold conformFields
      cases hconform : f.conform payload with
      | error fault => simp
      | ok payload₁ =>
          obtain ⟨hlen, _, hothers⟩ :=
            Field.conform_eq_ok (hlies f List.mem_cons_self) hconform
          have hlies' : ∀ g ∈ rest, g.offset + g.width ≤ payload₁.length := by
            intro g hg
            rw [hlen]
            exact hlies g (List.mem_cons_of_mem f hg)
          have hsame : (∀ g ∈ rest, g.Permits payload₁) ↔ ∀ g ∈ rest,
              g.Permits payload :=
            forall₂_congr fun g hg => (hothers g (hfirst g hg)).permits_iff
          simp only [ih hlies' hrest, hsame, Except.ok.injEq, exists_eq',
            true_and]

variable {k : MessageKind}

/-- **What comes of a payload is in good form**, and its own good form. -/
theorem MessageKind.admits_of_conform (hk : k ∈ messages)
    (h : k.conform payload = .ok payload') : k.Admits payload' := by
  obtain ⟨_, _, _, hlies⟩ := messages_fit k hk
  have hlen : (Bytes.fit k.length payload).length = k.length :=
    Bytes.length_fit _ _
  have hlies' : ∀ f ∈ k.fields,
      f.offset + f.width ≤ (Bytes.fit k.length payload).length := by
    rwa [hlen]
  obtain ⟨hlen', hadmits, _⟩ := conformFields_eq_ok hlies' (fields_apart k hk) h
  exact ⟨hlen'.trans hlen, hadmits⟩

/-- A payload has an outcome just if its enumerated fields permit it. -/
theorem MessageKind.exists_conform_iff (hk : k ∈ messages) (payload : Bytes) :
    (∃ payload', k.conform payload = .ok payload') ↔ k.Permits payload := by
  obtain ⟨_, _, _, hlies⟩ := messages_fit k hk
  have hlen : (Bytes.fit k.length payload).length = k.length :=
    Bytes.length_fit _ _
  exact exists_conformFields_iff (by rwa [hlen]) (fields_apart k hk)

end Dialect

namespace Message

variable {id : Nat} {payload : Bytes}

/-- **What comes of reading is well formed**, under the number that was read. -/
theorem wellFormed_of_parse {m : Message} (h : parse id payload = .ok m) :
    m.id = id ∧ m.WellFormed := by
  unfold parse at h
  split at h
  · cases h
  · next k hk =>
      split at h
      · cases h
      · next payload' hconform =>
          cases h
          have hmem := List.mem_of_find?_eq_some hk
          exact ⟨rfl, k, hk,
            Dialect.MessageKind.admits_of_conform hmem hconform⟩

/-- **When bytes make a message**: exactly if the number is in the dialect and
every enumerated field is good. -/
theorem exists_parse_iff (id : Nat) (payload : Bytes) :
    (∃ m, parse id payload = .ok m) ↔
      ∃ k, Dialect.lookup id = some k ∧ k.Permits payload := by
  unfold parse
  cases hk : Dialect.lookup id with
  | none => simp
  | some k =>
      have hmem := List.mem_of_find?_eq_some hk
      have hiff := Dialect.MessageKind.exists_conform_iff hmem payload
      cases hconform : k.conform payload with
      | error fault => simpa [hconform] using hiff
      | ok payload' => simpa [hconform] using hiff

end Message

end GroundLink
