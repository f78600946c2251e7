import GroundLink.Proofs.Address.Reading
import Mathlib.Data.List.Basic

/-!
# Numbers are read as they are written

All that is known of the digits of a number comes by `digits_induction`: one
digit, or the digits of the number without its last digit, and that digit.  They
are digits of the base in lower case (`exists_of_mem_digits`, `digits_subset`),
they have the worth of the number (`digitsValue_digits`), and there is no zero
in front of them (`head?_digits`).  So a number below the bound is read as it
was written (`number_digits`), with anything behind it that does not begin with
a digit.
-/

namespace GroundLink

namespace Address

variable {base n : Nat}

/-- From the first digit to the last. -/
theorem digits_induction {motive : Nat → List Char → Prop} (hbase : 1 < base)
    (single : ∀ d, d < base → motive d [Nat.digitChar d])
    (more : ∀ n d, 0 < n → d < base → motive n (digits base n) →
      motive (n * base + d) (digits base n ++ [Nat.digitChar d]))
    (n : Nat) : motive n (digits base n) := by
  induction n using Nat.strongRecOn with
  | ind n ih =>
      by_cases hlt : n < base
      · rw [digits, Nat.toDigits_of_lt_base hlt]
        exact single n hlt
      · have hle : base ≤ n := Nat.le_of_not_lt hlt
        have hpos : 0 < n / base := Nat.div_pos hle (by omega)
        have hsmaller : n / base < n := Nat.div_lt_self (by omega) hbase
        have hlast : n % base < base := Nat.mod_lt n (by omega)
        have hstep :=
          more (n / base) (n % base) hpos hlast (ih (n / base) hsmaller)
        rw [Nat.div_add_mod' n base] at hstep
        rwa [digits, Nat.toDigits_of_base_le hbase hle]

/-- A digit has the value that it was written for. -/
theorem digitValue?_digitChar {d : Nat} (hbase : base ≤ 16) (hd : d < base) :
    digitValue? base (Nat.digitChar d) = some d := by
  have hall : ∀ base ≤ 16, ∀ d < base, digitValue? base (Nat.digitChar d) =
      some d := by decide
  exact hall base hbase d hd

/-- A written number has digits of its base only. -/
theorem exists_of_mem_digits (hbase : 1 < base) (n : Nat) :
    ∀ c ∈ digits base n, ∃ d < base, c = Nat.digitChar d := by
  induction n using digits_induction hbase with
  | single d hd =>
      intro c hc
      exact ⟨d, hd, List.mem_singleton.mp hc⟩
  | more n d _ hd ih =>
      intro c hc
      rcases List.mem_append.mp hc with hc | hc
      · exact ih c hc
      · exact ⟨d, hd, List.mem_singleton.mp hc⟩

/-- Every character of a written number is read as a digit. -/
theorem isSome_of_mem_digits (hbase : 1 < base) (hle : base ≤ 16) (n : Nat) :
    ∀ c ∈ digits base n, (digitValue? base c).isSome = true := by
  intro c hc
  obtain ⟨d, hd, rfl⟩ := exists_of_mem_digits hbase n c hc
  rw [digitValue?_digitChar hle hd]
  rfl

/-- Digits are written in lower case. -/
theorem digits_subset (hbase : 1 < base) (hle : base ≤ 16) (n : Nat) :
    digits base n ⊆ "0123456789abcdef".toList := by
  have hall : ∀ d < 16, Nat.digitChar d ∈ "0123456789abcdef".toList := by decide
  intro c hc
  obtain ⟨d, hd, rfl⟩ := exists_of_mem_digits hbase n c hc
  exact hall d (Nat.lt_of_lt_of_le hd hle)

/-- A number has the value that it was written for. -/
theorem digitsValue_digits (hbase : 1 < base) (hle : base ≤ 16) (n : Nat) :
    digitsValue base (digits base n) = n := by
  induction n using digits_induction hbase with
  | single d hd =>
      have hvalue : digitsValue base [Nat.digitChar d] =
          0 * base + (digitValue? base (Nat.digitChar d)).getD 0 := rfl
      rw [hvalue, digitValue?_digitChar hle hd, Nat.zero_mul, Nat.zero_add]
      rfl
  | more n d _ hd ih =>
      unfold digitsValue at ih ⊢
      rw [List.foldl_append, ih, List.foldl_cons, List.foldl_nil,
        digitValue?_digitChar hle hd]
      rfl

theorem digits_ne_nil : digits base n ≠ [] := Nat.toDigits_ne_nil

/-- Only zero begins with a zero. -/
theorem head?_digits (hbase : 1 < base) (n : Nat)
    (h : (digits base n).head? = some '0') :
    n = 0 := by
  induction n using digits_induction hbase with
  | single d => exact Nat.digitChar_eq_zero.mp (Option.some.inj h)
  | more n d hpos _ ih =>
      rw [List.head?_append_of_ne_nil _ digits_ne_nil] at h
      have hzero := ih h
      omega

/-- **A number is read as it was written**, if it is below the bound and has no
more digits than it may have. -/
theorem number_digits {bound : Nat} {maxDigits : Option Nat}
    {leadingZero : Bool} (hbase : 1 < base) (hle : base ≤ 16) (hn : n < bound)
    (hlength : ∀ m ∈ maxDigits, (digits base n).length ≤ m) {rest : List Char}
    (hrest : NoDigit base rest) :
    number base bound maxDigits leadingZero (digits base n ++ rest) =
      some (n, rest) := by
  refine number_append ?_ hrest
  have hall : leadingDigits base (digits base n) = digits base n :=
    List.takeWhile_eq_self_iff.mpr (isSome_of_mem_digits hbase hle n)
  have hnonempty : (digits base n).isEmpty = false :=
    List.isEmpty_eq_false_iff.mpr digits_ne_nil
  have hfits : maxDigits.any (· < (digits base n).length) = false := by
    cases maxDigits with
    | none => rfl
    | some m => exact decide_eq_false (Nat.not_lt_of_le (hlength m rfl))
  have hzero : ¬((! leadingZero && (digits base n).head? == some '0' &&
      decide (1 < (digits base n).length)) = true) := by
    intro h
    simp only [Bool.and_eq_true, beq_iff_eq, decide_eq_true_eq] at h
    obtain ⟨⟨-, hhead⟩, hlong⟩ := h
    rw [head?_digits hbase n hhead, digits, Nat.toDigits_of_lt_base (by omega)]
      at hlong
    exact absurd hlong (by simp)
  unfold number
  dsimp only
  rw [hall, hnonempty, hfits, digitsValue_digits hbase hle, if_neg hzero,
    if_pos hn, List.drop_length]
  rfl

/-- An octet is read as it was written, if no digit follows. -/
theorem octet_digits (a : UInt8) {rest : List Char} (hrest : NoDigit 10 rest) :
    octet (digits 10 a.toNat ++ rest) = some (a, rest) := by
  have hlt : a.toNat < 256 := a.toNat_lt
  have hthree : (digits 10 a.toNat).length ≤ 3 :=
    (Nat.length_toDigits_le_iff (by decide) (by decide)).mpr (by omega)
  have hlength : ∀ m ∈ some 3, (digits 10 a.toNat).length ≤ m := by
    simpa using hthree
  unfold octet
  rw [number_digits (by decide) (by decide) hlt hlength hrest]
  exact congrArg (fun a => some (a, rest)) (UInt8.ofNat_toNat)

/-- A group is read as it was written, if no digit follows. -/
theorem group_digits (g : UInt16) {rest : List Char} (hrest : NoDigit 16 rest) :
    group (digits 16 g.toNat ++ rest) = some (g, rest) := by
  have hlt : g.toNat < 65536 := g.toNat_lt
  have hfour : (digits 16 g.toNat).length ≤ 4 :=
    (Nat.length_toDigits_le_iff (by decide) (by decide)).mpr (by omega)
  have hlength : ∀ m ∈ some 4, (digits 16 g.toNat).length ≤ m := by
    simpa using hfour
  unfold group
  rw [number_digits (by decide) (by decide) hlt hlength hrest]
  exact congrArg (fun g => some (g, rest)) (UInt16.ofNat_toNat)

end Address

end GroundLink
