import GroundLink.Address.Parser
import Mathlib.Data.List.TakeWhile

/-!
# What readers take

A reader that succeeds has taken something off the front of the text.  What it
takes is made of few characters (`Plain`), and of dots only where it reads a
dotted quad (`Quad`).

The runs of groups in an IPv6 address carry the rest: a quad ends such a run,
and it stands behind a colon unless it is the whole of it (`takes_groups`).  As
the quad is two groups only, that is not all of an address.  So in any text of
an address there is one quad at most, with no other dots, and it stands at the
very front or behind a colon (`Shape`).
-/

namespace GroundLink

namespace Address

/-- A character of an address other than a dot. -/
def IsPlain (c : Char) : Prop :=
  (digitValue? 16 c).isSome = true ∨ c ∈ [':', '[', ']', '%']

instance (c : Char) : Decidable (IsPlain c) :=
  inferInstanceAs (Decidable (_ ∨ _))

/-- There are no dots, and nothing that does not belong into an address. -/
def Plain (text : List Char) : Prop := ∀ c ∈ text, IsPlain c

instance (text : List Char) : Decidable (Plain text) :=
  List.decidableBAll IsPlain text

/-- No digit stands at the front, so that a number before the text ends
there. -/
def NoDigit (base : Nat) (text : List Char) : Prop :=
  ∀ c ∈ text.head?, digitValue? base c = none

/-- One to three decimal digits. -/
structure Octet (text : List Char) : Prop where
  ne_nil : text ≠ []
  digits : ∀ c ∈ text, (digitValue? 10 c).isSome = true
  length_le : text.length ≤ 3

/-- Four decimal numbers with dots between them. -/
inductive Quad : List Char → Prop
  | mk {a b c d : List Char} (ha : Octet a) (hb : Octet b) (hc : Octet c)
      (hd : Octet d) :
      Quad (a ++ '.' :: (b ++ '.' :: (c ++ '.' :: d)))

/-- What groups in a run are made of.  The run may end in a quad, which stands
behind a colon, or makes up all of a first run and is two groups then. -/
inductive Run (isFirst : Bool) (gs : List UInt16) :
    (dotted : Bool) → List Char → Prop
  | plain {text : List Char} (h : Plain text) : Run isFirst gs false text
  | behind {front quad : List Char} (hfront : Plain front)
      (hcolon : [':'] <:+ front)
      (hquad : Quad quad) : Run isFirst gs true (front ++ quad)
  | alone {quad : List Char} (hfirst : isFirst = true) (htwo : gs.length = 2)
      (hquad : Quad quad) : Run isFirst gs true quad

/-- What an IPv6 address is made of: there may be a quad at the end, behind a
colon. -/
inductive Grouped : List Char → Prop
  | plain {text : List Char} (h : Plain text) : Grouped text
  | quad {front quad : List Char} (hfront : Plain front)
      (hcolon : [':'] <:+ front)
      (hquad : Quad quad) : Grouped (front ++ quad)

/-- **What an address is made of**, with a port or without: there is one quad at
most, at the very front or behind a colon. -/
inductive Shape : List Char → Prop
  | plain {text : List Char} (h : Plain text) : Shape text
  | quad {front quad back : List Char} (hfront : Plain front)
      (hplace : front = [] ∨ [':'] <:+ front) (hquad : Quad quad)
        (hback : Plain back) :
      Shape (front ++ quad ++ back)

/-! ## Characters -/

/-- Plain texts may be put one behind the other. -/
theorem Plain.append {text more : List Char} (h : Plain text)
    (hmore : Plain more) :
    Plain (text ++ more) :=
  List.forall_mem_append.mpr ⟨h, hmore⟩

theorem Plain.cons {c : Char} {text : List Char} (hc : IsPlain c)
    (h : Plain text) :
    Plain (c :: text) :=
  List.forall_mem_cons.mpr ⟨hc, h⟩

/-- A plain text has no dot, for one. -/
theorem Plain.notMem {text : List Char} (h : Plain text) {c : Char}
    (hc : ¬IsPlain c) :
    c ∉ text :=
  fun hmem => hc (h c hmem)

/-- A digit in a small base is one in a larger base. -/
theorem isSome_digitValue?_of_le {base base' : Nat} (hle : base ≤ base')
    {c : Char} (h : (digitValue? base c).isSome = true) :
    (digitValue? base' c).isSome = true := by
  unfold digitValue? at h ⊢
  obtain ⟨value, hvalue⟩ := Option.isSome_iff_exists.mp h
  obtain ⟨hvalue, hlt⟩ := Option.filter_eq_some_iff.mp hvalue
  refine Option.isSome_iff_exists.mpr
    ⟨value, Option.filter_eq_some_iff.mpr ⟨hvalue, ?_⟩⟩
  exact decide_eq_true (Nat.lt_of_lt_of_le (of_decide_eq_true hlt) hle)

/-- Digits are plain, in any base up to sixteen. -/
theorem plain_of_digits {base : Nat} (hbase : base ≤ 16) {text : List Char}
    (h : ∀ c ∈ text, (digitValue? base c).isSome = true) : Plain text :=
  fun c hc => Or.inl (isSome_digitValue?_of_le hbase (h c hc))

/-- At the end of a text there is no digit. -/
theorem NoDigit.nil {base : Nat} : NoDigit base [] := nofun

/-- One look at the first character is enough. -/
theorem NoDigit.cons {base : Nat} {c : Char} (hc : digitValue? base c = none)
    (rest : List Char) :
    NoDigit base (c :: rest) := by
  intro d hd
  obtain rfl := Option.some.inj hd
  exact hc

/-- What is no digit in a large base is none in a smaller one. -/
theorem NoDigit.of_le {base base' : Nat} (hle : base ≤ base') {text : List Char}
    (h : NoDigit base' text) : NoDigit base text := by
  intro c hc
  rw [← Option.not_isSome_iff_eq_none]
  intro hdigit
  have hlarger := isSome_digitValue?_of_le hle hdigit
  rw [h c hc] at hlarger
  cases hlarger

/-! ## Readers -/

/-- What the reader takes off the front of a text is like this. -/
def Takes {α : Type} (reader : Reader α) (Like : List Char → Prop) : Prop :=
  ∀ ⦃text : List Char⦄ ⦃a : α⦄ ⦃rest : List Char⦄,
    reader text = some (a, rest) →
    ∃ used, text = used ++ rest ∧ Like used

/-- What a reader takes may be described more loosely. -/
theorem Takes.imp {α : Type} {reader : Reader α} {Like Like' : List Char → Prop}
    (h : Takes reader Like) (himp : ∀ text, Like text → Like' text) :
    Takes reader Like' := by
  intro text a rest hread
  obtain ⟨used, htext, hlike⟩ := h hread
  exact ⟨used, htext, himp used hlike⟩

/-- A reader takes the same whatever is made of the value. -/
theorem Takes.map {α β : Type} {reader : Reader α} {Like : List Char → Prop}
    (h : Takes reader Like) (f : α → β) :
    Takes (fun text => (reader text).map fun (a, rest) => (f a, rest))
      Like := by
  intro text b rest hread
  obtain ⟨⟨a, rest'⟩, hread, hpair⟩ := Option.map_eq_some_iff.mp hread
  cases hpair
  exact h hread

/-- A number takes one digit at least, only digits, and no more of them than
it may. -/
theorem takes_number (base bound : Nat) (maxDigits : Option Nat)
    (leadingZero : Bool) :
    Takes (number base bound maxDigits leadingZero) fun used =>
      used ≠ [] ∧ (∀ c ∈ used, (digitValue? base c).isSome = true) ∧
        ∀ m ∈ maxDigits, used.length ≤ m := by
  intro text n rest h
  unfold number at h
  dsimp only at h
  split at h
  · cases h
  · next hlength =>
      rw [Bool.or_eq_true, not_or] at hlength
      split at h
      · cases h
      · split at h
        · cases h
          have hprefix : leadingDigits base text <+: text :=
            List.takeWhile_prefix _
          refine ⟨leadingDigits base text, ?_,
            mt List.isEmpty_iff.mpr hlength.1, ?_, ?_⟩
          · exact (List.prefix_iff_eq_append.mp hprefix).symm
          · intro c hc
            exact List.mem_takeWhile_imp
              (p := fun c => (digitValue? base c).isSome) hc
          · intro m hm
            rw [Option.mem_def] at hm
            simpa [hm] using hlength.2
        · cases h

/-- A text without a digit at its front has no leading digits. -/
theorem NoDigit.leadingDigits_eq_nil {base : Nat} {text : List Char}
    (h : NoDigit base text) :
    leadingDigits base text = [] := by
  cases text with
  | nil => rfl
  | cons c rest => exact List.takeWhile_cons_of_neg (by simp [h c rfl])

/-- A number ends where the digits do. -/
theorem number_append {base bound : Nat} {maxDigits : Option Nat}
    {leadingZero : Bool} {text : List Char} {n : Nat}
    (h : number base bound maxDigits leadingZero text = some (n, []))
    {rest : List Char} (hrest : NoDigit base rest) :
    number base bound maxDigits leadingZero (text ++ rest) =
      some (n, rest) := by
  obtain ⟨used, htext, -, hdigits, -⟩ :=
    takes_number base bound maxDigits leadingZero h
  rw [List.append_nil] at htext
  subst htext
  have hnone := hrest.leadingDigits_eq_nil
  have hall : leadingDigits base (text ++ rest) = text := by
    unfold leadingDigits at hnone ⊢
    rw [List.takeWhile_append_of_pos hdigits, hnone, List.append_nil]
  have hself : leadingDigits base text = text :=
    List.takeWhile_eq_self_iff.mpr hdigits
  unfold number at h ⊢
  dsimp only at h ⊢
  rw [hself] at h
  rw [hall, List.drop_left]
  split at h
  · cases h
  · next hlength =>
      rw [if_neg hlength]
      split at h
      · cases h
      · next hzero =>
          rw [if_neg hzero]
          split at h
          · next hbound =>
              rw [if_pos hbound, (Prod.mk.inj (Option.some.inj h)).1]
          · cases h

/-- An octet ends where the digits end, whatever follows them. -/
theorem octet_append {text rest : List Char} {a : UInt8}
    (h : octet text = some (a, [])) (hrest : NoDigit 10 rest) :
    octet (text ++ rest) = some (a, rest) := by
  obtain ⟨⟨n, rest'⟩, hnumber, hpair⟩ := Option.map_eq_some_iff.mp h
  cases hpair
  unfold octet
  rw [number_append hnumber hrest]
  rfl

/-- An octet takes one to three decimal digits. -/
theorem takes_octet : Takes octet Octet := by
  have hnumber := takes_number 10 256 (some 3) false
  refine (hnumber.map UInt8.ofNat).imp ?_
  rintro used ⟨hne, hdigits, hlength⟩
  exact ⟨hne, hdigits, hlength 3 rfl⟩

/-- A group takes hexadecimal digits only. -/
theorem takes_group : Takes group Plain := by
  have hnumber := takes_number 16 65536 (some 4) true
  refine (hnumber.map UInt16.ofNat).imp ?_
  rintro used ⟨-, hdigits, -⟩
  exact plain_of_digits (Nat.le_refl _) hdigits

/-- A character that is expected is all that is taken. -/
theorem takes_expect (c : Char) : Takes (expect c) (· = [c]) := by
  intro text u rest h
  cases text with
  | nil => cases h
  | cons d text =>
      obtain ⟨rfl, hrest⟩ := Option.ite_none_right_eq_some.mp h
      cases hrest
      exact ⟨[d], rfl, rfl⟩

/-- Behind the separator stands the item. -/
theorem takes_separated {α : Type} {item : Reader α} {Like : List Char → Prop}
    (c : Char) (hitem : Takes item Like) :
    Takes (separated c false item) fun used => ∃ own, used = c :: own ∧
    Like own := by
  intro text a rest h
  unfold separated at h
  rw [if_neg Bool.false_ne_true] at h
  obtain ⟨⟨u, text'⟩, hexpect, hread⟩ := Option.bind_eq_some_iff.mp h
  obtain ⟨_, rfl, rfl⟩ := takes_expect c hexpect
  obtain ⟨own, rfl, hown⟩ := hitem hread
  exact ⟨c :: own, rfl, own, rfl, hown⟩

/-- An IPv4 address takes four octets with dots between them. -/
theorem takes_ipv4 : Takes ipv4 Quad := by
  intro text ip rest h
  simp only [ipv4, Option.bind_eq_bind, Option.bind_eq_some_iff, Prod.exists]
    at h
  obtain ⟨a, text₁, ha, b, text₂, hb, c, text₃, hc, d, text₄, hd, hpure⟩ := h
  cases hpure
  obtain ⟨as, rfl, has⟩ := takes_octet ha
  obtain ⟨_, rfl, bs, rfl, hbs⟩ := takes_separated '.' takes_octet hb
  obtain ⟨_, rfl, cs, rfl, hcs⟩ := takes_separated '.' takes_octet hc
  obtain ⟨_, rfl, ds, rfl, hds⟩ := takes_separated '.' takes_octet hd
  exact ⟨as ++ '.' :: (bs ++ '.' :: (cs ++ '.' :: ds)), by
      simp, .mk has hbs hcs hds⟩

/-! ## Groups -/

/-- One group more in front of a run that is not the first. -/
theorem Run.cons {isFirst dotted : Bool} {g : UInt16} {gs : List UInt16}
    {own used : List Char} (hown : Plain own) (h : Run false gs dotted used) :
    Run isFirst (g :: gs) dotted (own ++ used) := by
  cases h with
  | plain h => exact .plain (hown.append h)
  | behind hfront hcolon hquad =>
      rw [← List.append_assoc]
      exact .behind (hown.append hfront)
        (hcolon.trans (List.suffix_append _ _)) hquad
  | alone hfirst => cases hfirst

/-- **What a run of groups takes.**  By induction on the room: a quad ends the
run, and behind a group goes on a run that is not the first. -/
theorem takes_groups (room : Nat) (isFirst : Bool) (text : List Char) :
    ∃ used, text = used ++ (groups room isFirst text).2 ∧
      Run isFirst (groups room isFirst text).1.1 (groups room isFirst text).1.2
        used := by
  induction room generalizing isFirst text with
  | zero => exact ⟨[], rfl, .plain nofun⟩
  | succ room ih =>
      unfold groups
      split
      · next ip rest hipv4 =>
          obtain ⟨-, hread⟩ := Option.ite_none_right_eq_some.mp hipv4
          cases isFirst with
          | true =>
              obtain ⟨quad, rfl, hquad⟩ := takes_ipv4 hread
              exact ⟨quad, rfl, .alone rfl rfl hquad⟩
          | false =>
              obtain ⟨_, rfl, quad, rfl, hquad⟩ :=
                takes_separated ':' takes_ipv4 hread
              have hcolon : Plain [':'] := by decide
              exact ⟨[':'] ++ quad, rfl, .behind hcolon List.suffix_rfl hquad⟩
      · split
        · next g rest hgroup =>
            obtain ⟨own, rfl, hown⟩ : ∃ own, text = own ++ rest ∧
                Plain own := by
              cases isFirst with
              | true => exact takes_group hgroup
              | false =>
                  obtain ⟨_, rfl, own, rfl, hown⟩ :=
                    takes_separated ':' takes_group hgroup
                  exact ⟨':' :: own, rfl, .cons (by decide) hown⟩
            obtain ⟨used, hrest, hrun⟩ := ih false rest
            refine ⟨own ++ used, ?_, hrun.cons hown⟩
            rw [List.append_assoc, ← hrest]
        · exact ⟨[], rfl, .plain nofun⟩

/-- A run behind two colons. -/
theorem Run.grouped {isFirst dotted : Bool} {gs : List UInt16}
    {head tail : List Char} (h : Run isFirst gs dotted tail)
    (hhead : Plain head) :
    Grouped (head ++ ([':', ':'] ++ tail)) := by
  have hfront : Plain (head ++ [':', ':']) := hhead.append (by decide)
  have hcolon : [':'] <:+ head ++ [':', ':'] := ⟨head ++ [':'], by simp⟩
  rw [← List.append_assoc]
  cases h with
  | plain htail => exact .plain (hfront.append htail)
  | behind hmore hcolon' hquad =>
      rw [← List.append_assoc]
      exact .quad (hfront.append hmore)
        (hcolon'.trans (List.suffix_append _ _)) hquad
  | alone _ _ hquad => exact .quad hfront hcolon hquad

/-- An IPv6 address is plain, or ends in a quad that stands behind a colon. -/
theorem takes_ipv6 : Takes ipv6 Grouped := by
  intro text ip rest h
  obtain ⟨used, htext, hrun⟩ := takes_groups 8 true text
  unfold ipv6 at h
  generalize groups 8 true text = front at h htext hrun
  obtain ⟨⟨head, dotted⟩, rest₁⟩ := front
  dsimp only at h htext hrun
  split at h
  · next hall =>
      cases h
      refine ⟨used, htext, ?_⟩
      cases hrun with
      | plain h => exact .plain h
      | behind hfront hcolon hquad => exact .quad hfront hcolon hquad
      | alone _ htwo =>
          -- two groups are not eight
          rw [hall] at htwo
          cases htwo
  · split at h
    · cases h
    · next hdotted =>
        obtain rfl := Bool.eq_false_iff.mpr hdotted
        cases hrun with
        | plain hhead =>
            simp only [Option.bind_eq_bind, Option.bind_eq_some_iff,
              Prod.exists] at h
            obtain ⟨_, text₂, hcolon, _, text₃, hcolon', h⟩ := h
            obtain ⟨_, rfl, rfl⟩ := takes_expect ':' hcolon
            obtain ⟨_, rfl, rfl⟩ := takes_expect ':' hcolon'
            obtain ⟨tail, htail, hrun⟩ :=
              takes_groups (7 - head.length) true text₃
            cases h
            refine ⟨used ++ ([':', ':'] ++ tail), ?_, hrun.grouped hhead⟩
            rw [htext, List.append_assoc, List.append_assoc, ← htail]
            rfl

/-- A number behind a mark. -/
theorem takes_marked {α : Type} {mark : Char} (hmark : IsPlain mark)
    (bound : Nat) (f : Nat → α) :
    Takes (fun text => do
      let (_, text) ← expect mark text
      let (n, text) ← number 10 bound none true text
      pure (f n, text)) Plain := by
  intro text a rest h
  simp only [Option.bind_eq_bind, Option.bind_eq_some_iff, Prod.exists] at h
  obtain ⟨_, text₁, hexpect, n, text₂, hnumber, hpure⟩ := h
  cases hpure
  obtain ⟨_, rfl, rfl⟩ := takes_expect mark hexpect
  obtain ⟨used, rfl, -, hdigits, -⟩ := takes_number 10 bound none true hnumber
  exact ⟨mark :: used, rfl, .cons hmark (plain_of_digits (by decide) hdigits)⟩

/-- A port takes a colon and digits. -/
theorem takes_port :
    Takes port Plain := takes_marked (by decide) 65536 UInt16.ofNat

/-- A scope takes a percent sign and digits. -/
theorem takes_scope :
    Takes scope Plain := takes_marked (by decide) 4294967296 UInt32.ofNat

/-- An IPv6 address with something around it that has no dots. -/
theorem Grouped.shape {front body back : List Char} (h : Grouped body)
    (hfront : Plain front) (hback : Plain back) :
    Shape (front ++ body ++ back) := by
  cases h with
  | plain hbody => exact .plain ((hfront.append hbody).append hback)
  | quad hmore hcolon hquad =>
      rw [← List.append_assoc front]
      exact .quad (hfront.append hmore)
        (Or.inr (hcolon.trans (List.suffix_append _ _))) hquad
        hback

/-- A quad at the front may be followed by anything plain. -/
theorem Quad.shape {quad back : List Char} (h : Quad quad)
    (hback : Plain back) :
    Shape (quad ++ back) := by
  have hfront : Plain [] := nofun
  exact .quad hfront (Or.inl rfl) h hback

/-- An address of either kind has a quad at its front, or behind a colon. -/
theorem takes_ipAddress : Takes ipAddress Shape := by
  intro text ip rest h
  unfold ipAddress at h
  split at h
  · next hread =>
      cases h
      obtain ⟨quad, rfl, hquad⟩ := takes_ipv4 hread
      exact ⟨quad ++ [], by simp, hquad.shape nofun⟩
  · obtain ⟨used, rfl, hused⟩ := takes_ipv6.map IpAddress.v6 h
    exact ⟨[] ++ used ++ [], by simp, hused.shape nofun nofun⟩

/-- Behind the quad there are only a colon and the port. -/
theorem takes_socketV4 : Takes socketV4 Shape := by
  intro text p rest h
  simp only [socketV4, Option.bind_eq_bind, Option.bind_eq_some_iff,
    Prod.exists] at h
  obtain ⟨ip, text₁, hip, p, text₂, hport, hpure⟩ := h
  cases hpure
  obtain ⟨quad, rfl, hquad⟩ := takes_ipv4 hip
  obtain ⟨own, rfl, hown⟩ := takes_port hport
  exact ⟨quad ++ own, by simp, hquad.shape hown⟩

/-- There may be a scope or none. -/
theorem takes_scope_getD (text : List Char) :
    ∃ used, text = used ++ ((scope text).getD (0, text)).2 ∧ Plain used := by
  cases hscope : scope text with
  | none => exact ⟨[], rfl, nofun⟩
  | some r => exact takes_scope hscope

/-- The brackets, the scope and the port around an IPv6 address are plain. -/
theorem takes_socketV6 : Takes socketV6 Shape := by
  intro text p rest h
  simp only [socketV6, Option.bind_eq_bind, Option.bind_eq_some_iff,
    Prod.exists] at h
  obtain ⟨_, text₁, hopen, ip, text₂, hip, _, text₃, hclose, p, text₄, hport,
      hpure⟩ := h
  cases hpure
  obtain ⟨_, rfl, rfl⟩ := takes_expect '[' hopen
  obtain ⟨body, rfl, hbody⟩ := takes_ipv6 hip
  obtain ⟨inScope, hinScope, hplain⟩ := takes_scope_getD text₂
  obtain ⟨_, hclosed, rfl⟩ := takes_expect ']' hclose
  obtain ⟨own, rfl, hown⟩ := takes_port hport
  refine ⟨['['] ++ body ++ (inScope ++ (']' :: own)), ?_,
    hbody.shape (by decide)
    (hplain.append (.cons (by decide) hown))⟩
  rw [hinScope, hclosed]
  simp

/-- The same shape for the addresses of both kinds. -/
theorem takes_socketAddress : Takes socketAddress Shape := by
  intro text a rest h
  unfold socketAddress at h
  split at h
  · next hread =>
      cases h
      exact takes_socketV4 hread
  · exact takes_socketV6 h

/-! ## Whole texts -/

/-- A reader has read the whole text if it has left nothing. -/
theorem whole_eq_some_iff {α : Type} {reader : Reader α} {text : List Char}
    {a : α} :
    whole reader text = some a ↔ reader text = some (a, []) := by
  unfold whole
  split
  · next hread => rw [hread]; simp
  · next hother =>
      refine iff_of_false nofun ?_
      intro hread
      exact hother a hread

/-- A reader that leaves nothing has taken the whole text. -/
theorem Takes.whole {α : Type} {reader : Reader α} {Like : List Char → Prop}
    (h : Takes reader Like) {text : List Char} {a : α}
    (hwhole : whole reader text = some a) :
    Like text := by
  obtain ⟨used, rfl, hused⟩ := h (whole_eq_some_iff.mp hwhole)
  rwa [List.append_nil]

/-! ## Dots -/

/-- There is no dot in a plain text. -/
theorem Plain.count_dot {text : List Char} (h : Plain text) :
    text.count '.' = 0 :=
  List.count_eq_zero.mpr (h.notMem (by decide))

/-- An octet has no dot of its own. -/
theorem Octet.plain {text : List Char} (h : Octet text) : Plain text :=
  plain_of_digits (by decide) h.digits

/-- The dots of a quad stand between its four octets. -/
theorem Quad.count_dot {text : List Char} (h : Quad text) :
    text.count '.' = 3 := by
  cases h with
  | mk ha hb hc hd =>
      simp [List.count_append, ha.plain.count_dot, hb.plain.count_dot,
        hc.plain.count_dot, hd.plain.count_dot]

/-- There is one quad at most. -/
theorem Shape.count_dot {text : List Char} (h : Shape text) :
    text.count '.' ≤ 3 := by
  cases h with
  | plain h => rw [h.count_dot]; exact Nat.zero_le _
  | quad hfront _ hquad hback =>
      rw [List.count_append, List.count_append, hfront.count_dot,
        hquad.count_dot, hback.count_dot]

/-- Beside its dots a quad is plain. -/
theorem Quad.mem {text : List Char} (h : Quad text) {c : Char} (hc : c ∈ text) :
    IsPlain c ∨ c = '.' := by
  cases h with
  | mk h₁ h₂ h₃ h₄ =>
      simp only [List.mem_append, List.mem_cons] at hc
      rcases hc with hc | hc | hc | hc | hc | hc | hc
      · exact Or.inl (h₁.plain c hc)
      · exact Or.inr hc
      · exact Or.inl (h₂.plain c hc)
      · exact Or.inr hc
      · exact Or.inl (h₃.plain c hc)
      · exact Or.inr hc
      · exact Or.inl (h₄.plain c hc)

/-- Every character of an address is plain or a dot. -/
theorem Shape.mem {text : List Char} (h : Shape text) {c : Char}
    (hc : c ∈ text) :
    IsPlain c ∨ c = '.' := by
  cases h with
  | plain h => exact Or.inl (h c hc)
  | quad hfront _ hquad hback =>
      simp only [List.mem_append] at hc
      rcases hc with (hc | hc) | hc
      · exact Or.inl (hfront c hc)
      · exact hquad.mem hc
      · exact Or.inl (hback c hc)

/-- What stands in front of the first dot. -/
theorem takeWhile_dot {text : List Char} (h : '.' ∉ text) (more : List Char) :
    (text ++ '.' :: more).takeWhile (· != '.') = text := by
  rw [List.takeWhile_append_of_pos, List.takeWhile_cons_of_neg (by decide),
    List.append_nil]
  intro c hc
  exact bne_iff_ne.mpr fun hdot => h (hdot ▸ hc)

/-- A number of three digits has no room for one more in front of it. -/
theorem Octet.place {front before number : List Char} (h : Octet number)
    (hsplit : before ++ "127".toList = front ++ number)
    (hplace : front = [] ∨ [':'] <:+ front) :
    before = [] ∨ [':'] <:+ before := by
  rcases List.append_eq_append_iff.mp hsplit with
      ⟨more, rfl, hmore⟩ | ⟨more, rfl, hmore⟩
  · -- nothing of the number is in front of it
    rcases List.eq_nil_or_concat more with rfl | ⟨more', c, rfl⟩
    · rwa [List.append_nil] at hplace
    · exfalso
      rcases hplace with hnil | ⟨front, hfront⟩
      · simp at hnil
      · rw [List.concat_eq_append, ← List.append_assoc] at hfront
        obtain ⟨-, hc⟩ := List.append_inj' hfront rfl
        obtain rfl := List.singleton_inj.mp hc
        have hmem : ':' ∈ "127".toList := by simp [hmore]
        exact absurd hmem (by decide)
  · have hlength := h.length_le
    rw [hmore, List.length_append] at hlength
    have hthree : "127".toList.length = 3 := rfl
    obtain rfl : more = [] := List.length_eq_zero_iff.mp (by omega)
    rwa [List.append_nil]

/-- **Where the loopback address can stand**: it is the only quad there is, and
so it is at the very front or behind a colon. -/
theorem Shape.place {before after : List Char}
    (h : Shape (before ++ "127.0.0.1".toList ++ after)) :
    before = [] ∨ [':'] <:+ before := by
  have hcount := h.count_dot
  rw [List.count_append, List.count_append] at hcount
  have hthree : "127.0.0.1".toList.count '.' = 3 := rfl
  have hbefore : '.' ∉ before := List.count_eq_zero.mp (by omega)
  generalize htext : before ++ "127.0.0.1".toList ++ after = text at h
  cases h with
  | plain hplain =>
      have hnone := hplain.count_dot
      rw [← htext, List.count_append, List.count_append] at hnone
      omega
  | @quad front quad back hfront hplace hquad =>
      cases hquad with
      | @mk a b c d ha hb hc hd =>
          have hnumber : '.' ∉ front ++ a :=
            (hfront.append ha.plain).notMem (by decide)
          have hloopback : '.' ∉ before ++ "127".toList := by simp [hbefore]
          have hdots :
              before ++ "127".toList ++ '.' :: ("0.0.1".toList ++ after) =
              front ++ a ++ '.' :: (b ++ '.' :: (c ++ '.' :: d) ++ back) := by
            simpa using htext
          have hfirst := congrArg (List.takeWhile (· != '.')) hdots
          rw [takeWhile_dot hloopback, takeWhile_dot hnumber] at hfirst
          exact ha.place hfirst hplace

end Address

end GroundLink
