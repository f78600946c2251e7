import GroundLink.Address.Form
import GroundLink.Proofs.Address.Digits
import GroundLink.Proofs.Bytes

/-!
# One form for every IPv6 address

An address is written in its form and in no other (`Ipv6.form_iff`).

The search for the zero groups goes along the groups from the back to the front,
and prefers the run that it stands in front of to a later one that is not
longer.  So it ends with the longest run, and with the first of equally long
ones (`longestZeros_run`), by induction on the groups: either a run begins at
the very front, or it is a run of the groups behind (`split_cons`).  There is
one such run only (`LongestRun.unique`).
-/

namespace GroundLink

namespace Address

variable {g : UInt16} {groups rest before before' after after' : List UInt16}
  {zeros zeros' : Nat}

/-! ## Zero groups -/

/-- The zero groups at the front, and what is behind them. -/
theorem leadingZeros_split (groups : List UInt16) :
    groups = List.replicate (leadingZeros groups) 0 ++ groups.drop
      (leadingZeros groups) := by
  have hzeros :
      groups.takeWhile (· == 0) = List.replicate (leadingZeros groups) 0 := by
    refine List.eq_replicate_iff.mpr ⟨rfl, ?_⟩
    intro g hg
    exact eq_of_beq (List.mem_takeWhile_imp (p := (· == 0)) hg)
  have hprefix : groups.takeWhile (· == 0) <+: groups := List.takeWhile_prefix _
  rw [← hzeros]
  exact (List.prefix_iff_eq_append.mp hprefix).symm

/-- The zeros at the front are counted among the leading ones. -/
theorem le_leadingZeros (zeros : Nat) (after : List UInt16) :
    zeros ≤ leadingZeros (List.replicate zeros 0 ++ after) := by
  have hzeros : ∀ g ∈ List.replicate zeros (0 : UInt16),
      (g == 0) = true := by simp
  rw [leadingZeros, List.takeWhile_append_of_pos hzeros, List.length_append,
    List.length_replicate]
  exact Nat.le_add_right _ _

/-- **Where a run begins**: at the very front, or somewhere behind the first
group. -/
theorem split_cons (h : g :: rest = before ++ List.replicate zeros 0 ++ after) :
    before = [] ∧ zeros ≤ leadingZeros (g :: rest) ∨
      ∃ before', before = g :: before' ∧
        rest = before' ++ List.replicate zeros 0 ++ after := by
  cases before with
  | nil =>
      refine Or.inl ⟨rfl, ?_⟩
      rw [h]
      exact le_leadingZeros zeros after
  | cons g' before' =>
      obtain ⟨rfl, hrest⟩ := List.cons.inj h
      exact Or.inr ⟨before', rfl, hrest⟩

/-- Without groups the longest run is empty. -/
theorem LongestRun.nil : LongestRun [] [] 0 [] where
  split := rfl
  longest := by
    intro before zeros after h
    have hlength := congrArg List.length h
    simp at hlength
    omega
  first := by simp

/-- The run at the front, if no later one is longer. -/
theorem LongestRun.front (h : LongestRun rest before zeros after)
    (hle : zeros ≤ leadingZeros (g :: rest)) :
    LongestRun (g :: rest) [] (leadingZeros (g :: rest))
      ((g :: rest).drop (leadingZeros (g :: rest))) where
  split := leadingZeros_split (g :: rest)
  longest := by
    intro before' zeros' after' hsplit
    rcases split_cons hsplit with ⟨-, hfront⟩ | ⟨behind, -, hbehind⟩
    · exact hfront
    · exact Nat.le_trans (h.longest behind zeros' after' hbehind) hle
  first := by simp

/-- A later run, if it is longer than the one at the front. -/
theorem LongestRun.behind (h : LongestRun rest before zeros after)
    (hlt : leadingZeros (g :: rest) < zeros) :
    LongestRun (g :: rest) (g :: before) zeros after where
  split := by rw [h.split]; rfl
  longest := by
    intro before' zeros' after' hsplit
    rcases split_cons hsplit with ⟨-, hfront⟩ | ⟨behind, -, hbehind⟩
    · omega
    · exact h.longest behind zeros' after' hbehind
  first := by
    intro before' after' hsplit
    rcases split_cons hsplit with ⟨-, hfront⟩ | ⟨behind, rfl, hbehind⟩
    · omega
    · exact Nat.succ_le_succ (h.first behind after' hbehind)

/-- **The search finds the longest run**, and the first of equally long ones. -/
theorem longestZeros_run (start : Nat) (groups : List UInt16) :
    ∃ before zeros after,
      longestZeros start groups = (start + before.length, zeros) ∧
      LongestRun groups before zeros after := by
  induction groups generalizing start with
  | nil => exact ⟨[], 0, [], rfl, .nil⟩
  | cons g rest ih =>
      obtain ⟨before, zeros, after, hsearch, hrun⟩ := ih (start + 1)
      unfold longestZeros
      rw [hsearch]
      by_cases hle : zeros ≤ leadingZeros (g :: rest)
      · exact ⟨[], _, _, if_pos hle, hrun.front hle⟩
      · refine ⟨g :: before, zeros, after, ?_,
          hrun.behind (Nat.lt_of_not_le hle)⟩
        rw [List.length_cons, Nat.add_right_comm, Nat.add_assoc]
        exact if_neg hle

/-- There is one longest run: of two of the same length, the first one
counts. -/
theorem LongestRun.unique (h : LongestRun groups before zeros after)
    (h' : LongestRun groups before' zeros' after') :
    before = before' ∧ zeros = zeros' ∧ after = after' := by
  have hzeros : zeros = zeros' :=
    Nat.le_antisymm (h'.longest _ _ _ h.split) (h.longest _ _ _ h'.split)
  subst hzeros
  have hlength : before.length = before'.length :=
    Nat.le_antisymm (h.first _ _ h'.split) (h'.first _ _ h.split)
  have hsplit := h.split.symm.trans h'.split
  rw [List.append_assoc, List.append_assoc] at hsplit
  obtain ⟨hbefore, hbehind⟩ := List.append_inj hsplit hlength
  exact ⟨hbefore, rfl, List.append_cancel_left hbehind⟩

/-- The search finds the longest run. -/
theorem LongestRun.longestZeros_eq (h : LongestRun groups before zeros after) :
    longestZeros 0 groups = (before.length, zeros) := by
  obtain ⟨before', zeros', after', hsearch, hrun⟩ := longestZeros_run 0 groups
  obtain ⟨rfl, rfl, -⟩ := h.unique hrun
  rw [hsearch, Nat.zero_add]

/-! ## Characters -/

/-- Groups with a colon in front of each. -/
def writeMore (gs : List UInt16) : List Char :=
  gs.flatMap fun g => ':' :: digits 16 g.toNat

/-- One group more is written with its colon before it. -/
theorem writeMore_cons (g : UInt16) (gs : List UInt16) (text : List Char) :
    writeMore (g :: gs) ++ text =
      ':' :: (digits 16 g.toNat ++ (writeMore gs ++ text)) := by
  simp [writeMore]

/-- The first group is written without a colon. -/
theorem writeGroups_cons (g : UInt16) (gs : List UInt16) :
    writeGroups (g :: gs) = digits 16 g.toNat ++ writeMore gs := by
  induction gs generalizing g with
  | nil => exact (List.append_nil _).symm
  | cons g' gs ih =>
      rw [writeGroups, ih g']
      · rfl
      · exact nofun

/-- Groups are written in digits and colons. -/
theorem writeMore_subset (gs : List UInt16) :
    writeMore gs ⊆ "0123456789abcdef:".toList := by
  intro c hc
  obtain ⟨g, -, hg⟩ := List.mem_flatMap.mp hc
  rcases List.mem_cons.mp hg with rfl | hg
  · decide
  · have hlower := digits_subset (by decide) (Nat.le_refl _) g.toNat hg
    exact List.mem_append_left [':'] hlower

theorem writeGroups_subset (gs : List UInt16) :
    writeGroups gs ⊆ "0123456789abcdef:".toList := by
  cases gs with
  | nil => exact List.nil_subset _
  | cons g gs =>
      have hlower := digits_subset (by decide) (Nat.le_refl _) g.toNat
      rw [writeGroups_cons]
      exact List.append_subset.mpr
        ⟨List.subset_append_of_subset_left [':'] hlower, writeMore_subset gs⟩

end Address

open Address

/-- The numbers of a quad and the dots between them. -/
theorem Ipv4.write_subset (ip : Ipv4) :
    ip.write ⊆ "0123456789abcdef:.".toList := by
  have hnumber (a : UInt8) : digits 10 a.toNat ⊆ "0123456789abcdef:.".toList :=
    List.subset_append_of_subset_left [':', '.']
      (digits_subset (by decide) (by decide) a.toNat)
  simp only [Ipv4.write, List.append_subset, List.cons_subset]
  exact ⟨⟨⟨hnumber _, by decide, hnumber _⟩, by decide, hnumber _⟩, by
      decide, hnumber _⟩

namespace Ipv6

variable {ip : Ipv6} {text : List Char} {before after : List UInt16}
  {zeros : Nat}

/-! ## Addresses that stand for IPv4 ones -/

/-- The test for a mapped address finds just those that carry an IPv4
address. -/
theorem mapped?_eq_some_iff {quad : Ipv4} :
    ip.mapped? = some quad ↔ ip.Maps quad := by
  unfold mapped? Maps groupsOf
  constructor
  · intro h
    split at h
    · next x y hgroups =>
        cases h
        rw [hgroups, Bytes.pair_high_low, Bytes.pair_high_low]
        rfl
    · cases h
  · intro h
    rw [h]
    simp only [List.cons_append, List.nil_append, Bytes.low_pair,
      Bytes.high_pair]

theorem mapped?_eq_none (hmaps : ∀ quad, ¬ip.Maps quad) : ip.mapped? = none :=
  Option.eq_none_iff_forall_ne_some.mpr fun quad h =>
    hmaps quad (mapped?_eq_some_iff.mp h)

/-! ## The form -/

/-- A mapped address is written with its IPv4 address in dots. -/
theorem write_mapped {quad : Ipv4} (h : ip.Maps quad) :
    ip.write = "::ffff:".toList ++ quad.write := by
  unfold write
  rw [mapped?_eq_some_iff.mpr h]

/-- An address with two zero groups in a row is written with its longest run
left out. -/
theorem write_shortened (hmaps : ∀ quad, ¬ip.Maps quad) (htwo : 2 ≤ zeros)
    (h : LongestRun ip.groups before zeros after) :
    ip.write = writeGroups before ++ "::".toList ++ writeGroups after := by
  have hbefore : ip.groups.take before.length = before := by
    rw [h.split, List.append_assoc, List.take_left]
  have hafter : ip.groups.drop (before.length + zeros) = after := by
    have hlength : (before ++ List.replicate zeros (0 : UInt16)).length =
        before.length + zeros := by
      rw [List.length_append, List.length_replicate]
    rw [h.split, ← hlength, List.drop_left]
  unfold write
  rw [mapped?_eq_none hmaps, h.longestZeros_eq]
  dsimp only
  rw [if_pos htwo, hbefore, hafter]

/-- Without two zero groups in a row all eight groups are written. -/
theorem write_full (hmaps : ∀ quad, ¬ip.Maps quad) (hshort : zeros < 2)
    (h : LongestRun ip.groups before zeros after) :
    ip.write = writeGroups ip.groups := by
  unfold write
  rw [mapped?_eq_none hmaps, h.longestZeros_eq]
  exact if_neg (Nat.not_le_of_lt hshort)

/-- **An address is written in its form.** -/
theorem form_write (ip : Ipv6) : ip.Form ip.write := by
  by_cases hmaps : ∃ quad, ip.Maps quad
  · obtain ⟨quad, hquad⟩ := hmaps
    rw [write_mapped hquad]
    exact .mapped hquad
  · rw [not_exists] at hmaps
    obtain ⟨before, zeros, after, -, hrun⟩ := longestZeros_run 0 ip.groups
    by_cases htwo : 2 ≤ zeros
    · rw [write_shortened hmaps htwo hrun]
      exact .shortened hmaps htwo hrun
    · have hshort : zeros < 2 := Nat.lt_of_not_le htwo
      rw [write_full hmaps hshort hrun]
      exact .full hmaps hshort hrun

/-- **The form is one text**, the one that is written. -/
theorem form_iff : ip.Form text ↔ text = ip.write := by
  constructor
  · intro h
    cases h with
    | mapped h => exact (write_mapped h).symm
    | shortened hmaps htwo h => exact (write_shortened hmaps htwo h).symm
    | full hmaps hshort h => exact (write_full hmaps hshort h).symm
  · rintro rfl
    exact form_write ip

/-- **An address is written in lower case.** -/
theorem write_subset (ip : Ipv6) : ip.write ⊆ "0123456789abcdef:.".toList := by
  have hgroups (gs : List UInt16) :
      writeGroups gs ⊆ "0123456789abcdef:.".toList :=
    List.subset_append_of_subset_left ['.'] (writeGroups_subset gs)
  have hform := ip.form_write
  generalize ip.write = text at hform
  cases hform with
  | mapped => exact List.append_subset.mpr ⟨by decide, Ipv4.write_subset _⟩
  | shortened =>
      exact List.append_subset.mpr
        ⟨List.append_subset.mpr ⟨hgroups _, by decide⟩, hgroups _⟩
  | full => exact hgroups _

/-- Of two runs of equal length the first is left out. -/
example :
    write ⟨[0x2001, 0xdb8, 0, 0, 1, 0, 0, 0xA], rfl⟩ =
      "2001:db8::1:0:0:a".toList := by
  decide

end Ipv6

end GroundLink
