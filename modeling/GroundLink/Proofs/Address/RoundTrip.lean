import GroundLink.Proofs.Address.Bind
import GroundLink.Proofs.Address.Digits
import GroundLink.Proofs.Address.Form

/-!
# Addresses are read as they are written

A reader has to stop where what was written stops.  A number does, if there is
no digit behind it (`number_digits`).  A run of groups does, if what is behind
it cannot be one group more (`groups_writeGroups`); and none of its groups
begins a quad, as there is no dot behind it (`Plain.ipv4_eq_none`).  So the
groups before the zeros end at the two colons, those behind them at the end of
the address, and what lies between are the zeros that were left out
(`ipv6_shortened`).
-/

namespace GroundLink

namespace Address

variable {text rest : List Char} {gs : List UInt16} {room : Nat}

/-! ## Readers over what was written -/

/-- **What may stand behind an address**: no dots, and neither a digit nor a
colon at the front. -/
structure Ending (rest : List Char) : Prop where
  plain : Plain rest
  digit : NoDigit 16 rest
  colon : ∀ c ∈ rest.head?, c ≠ ':'

theorem Ending.nil : Ending [] := ⟨nofun, .nil, nofun⟩

/-- The first character decides, as long as the rest is plain. -/
theorem Ending.cons {c : Char} (hplain : IsPlain c)
    (hdigit : digitValue? 16 c = none) (hcolon : c ≠ ':') (h : Plain rest) :
    Ending (c :: rest) where
  plain := h.cons hplain
  digit := .cons hdigit rest
  colon := by
    intro d hd
    obtain rfl := Option.some.inj hd
    exact hcolon

/-- A character is read where it stands. -/
theorem expect_cons (c : Char) (rest : List Char) :
    expect c (c :: rest) = some ((), rest) :=
  if_pos rfl

/-- A character is not read where another stands, or none. -/
theorem expect_eq_none {c : Char} (h : ∀ d ∈ text.head?, d ≠ c) :
    expect c text = none := by
  cases text with
  | nil => rfl
  | cons d rest => exact if_neg (h d rfl)

/-- An item that is not the first is read behind its separator. -/
theorem separated_cons {α : Type} (c : Char) (item : Reader α)
    (rest : List Char) :
    separated c false item (c :: rest) = item rest := by
  unfold separated
  rw [if_neg Bool.false_ne_true, expect_cons]
  rfl

/-- Without its separator no item is read but the first. -/
theorem separated_eq_none {α : Type} {c : Char} (item : Reader α)
    (h : ∀ d ∈ text.head?, d ≠ c) : separated c false item text = none := by
  unfold separated
  rw [if_neg Bool.false_ne_true, expect_eq_none h]
  rfl

/-- Without a digit at the front there is no group. -/
theorem NoDigit.group_eq_none (h : NoDigit 16 text) : group text = none := by
  unfold group number
  rw [h.leadingDigits_eq_nil]
  rfl

/-! ## Quads -/

/-- An IPv4 address is read as it was written, up to the end of its last
octet. -/
theorem ipv4_write (ip : Ipv4) (hrest : NoDigit 10 rest) :
    ipv4 (ip.write ++ rest) = some (ip, rest) := by
  have hdot (more : List Char) : NoDigit 10 ('.' :: more) := .cons rfl more
  simp only [Ipv4.write, List.append_assoc, List.cons_append, ipv4,
    octet_digits _ (hdot _), octet_digits ip.d hrest, separated_cons,
    Option.bind_eq_bind, Option.bind_some]
  rfl

/-- Without dots there is no quad. -/
theorem Plain.ipv4_eq_none (h : Plain text) : ipv4 text = none := by
  rw [Option.eq_none_iff_forall_ne_some]
  rintro ⟨ip, rest⟩ hread
  obtain ⟨quad, rfl, hquad⟩ := takes_ipv4 hread
  have hcount := h.count_dot
  rw [List.count_append, hquad.count_dot] at hcount
  omega

/-- There is no quad in a text without dots. -/
theorem Plain.separated_ipv4_eq_none (h : Plain text) (c : Char)
    (isFirst : Bool) :
    separated c isFirst ipv4 text = none := by
  cases isFirst with
  | true => exact h.ipv4_eq_none
  | false =>
      cases text with
      | nil => rfl
      | cons d rest =>
          by_cases hd : d = c
          · rw [hd, separated_cons]
            exact Plain.ipv4_eq_none fun c hc => h c (List.mem_cons_of_mem _ hc)
          · refine separated_eq_none _ ?_
            intro d' hd'
            obtain rfl := Option.some.inj hd'
            exact hd

/-! ## Groups -/

/-- Written numbers are plain. -/
theorem plain_digits {base : Nat} (hbase : 1 < base) (hle : base ≤ 16)
    (n : Nat) :
    Plain (digits base n) :=
  plain_of_digits hle (isSome_of_mem_digits hbase hle n)

/-- What is made of digits and colons is plain. -/
theorem plain_of_subset (h : text ⊆ "0123456789abcdef:".toList) :
    Plain text := by
  have hplain : Plain "0123456789abcdef:".toList := by decide
  exact fun c hc => hplain c (h hc)

theorem plain_writeMore (gs : List UInt16) : Plain (writeMore gs) :=
  plain_of_subset (writeMore_subset gs)

/-- Written groups are digits and colons. -/
theorem plain_writeGroups (gs : List UInt16) : Plain (writeGroups gs) :=
  plain_of_subset (writeGroups_subset gs)

/-- A quad ends the groups, and counts for two. -/
theorem groups_of_quad {isFirst : Bool} {ip : Ipv4} (hroom : 1 ≤ room)
    (hquad : separated ':' isFirst ipv4 text = some (ip, rest)) :
    groups (room + 1) isFirst text = ((groupsOf ip, true), rest) := by
  simp only [groups, if_pos hroom, hquad]

/-- One group more at the front, which is no quad. -/
theorem groups_of_group {isFirst dotted : Bool} {g : UInt16} {more : List Char}
    (hquad : separated ':' isFirst ipv4 text = none)
    (hgroup : separated ':' isFirst group text = some (g, more))
    (hmore : groups room false more = ((gs, dotted), rest)) :
    groups (room + 1) isFirst text = ((g :: gs, dotted), rest) := by
  simp only [groups, hquad, ite_self, hgroup, hmore]

/-- Neither a quad nor a group: the groups end here. -/
theorem groups_of_none {isFirst : Bool}
    (hquad : separated ':' isFirst ipv4 text = none)
    (hgroup : separated ':' isFirst group text = none) :
    groups (room + 1) isFirst text = (([], false), text) := by
  simp only [groups, hquad, ite_self, hgroup]

/-- No digit follows on the last one of a group. -/
theorem NoDigit.writeMore_append (gs : List UInt16) (h : NoDigit 16 rest) :
    NoDigit 16 (writeMore gs ++ rest) := by
  cases gs with
  | nil => exact h
  | cons g gs => exact .cons rfl _

/-- **Groups are read as they were written**, here those that are not the first.
There is room for them, and none is left or no further group follows. -/
theorem groups_writeMore (hroom : gs.length ≤ room) (hplain : Plain rest)
    (hdigit : NoDigit 16 rest)
    (hstop : gs.length = room ∨ separated ':' false group rest = none) :
    groups room false (writeMore gs ++ rest) = ((gs, false), rest) := by
  induction gs generalizing room with
  | nil =>
      cases room with
      | zero => rfl
      | succ room =>
          have hquad := hplain.separated_ipv4_eq_none ':' false
          exact groups_of_none hquad (hstop.resolve_left nofun)
  | cons g gs ih =>
      cases room with
      | zero => exact absurd hroom (Nat.not_succ_le_zero _)
      | succ room =>
          have hmore :=
            ih (Nat.le_of_succ_le_succ hroom) (hstop.imp_left Nat.succ.inj)
          have htext : Plain (writeMore (g :: gs) ++ rest) :=
            (plain_writeMore _).append hplain
          refine groups_of_group (htext.separated_ipv4_eq_none ':' false)
            ?_ hmore
          rw [writeMore_cons, separated_cons,
            group_digits g (hdigit.writeMore_append gs)]

/-- Groups are read as they were written from the first one on, which has no
colon before it. -/
theorem groups_writeGroups (hroom : gs.length ≤ room) (hplain : Plain rest)
    (hdigit : NoDigit 16 rest)
    (hstop : gs.length = room ∨ separated ':' false group rest = none) :
    groups room true (writeGroups gs ++ rest) = ((gs, false), rest) := by
  cases gs with
  | nil =>
      cases room with
      | zero => rfl
      | succ room =>
          have hquad := hplain.separated_ipv4_eq_none ':' true
          exact groups_of_none hquad hdigit.group_eq_none
  | cons g gs =>
      cases room with
      | zero => exact absurd hroom (Nat.not_succ_le_zero _)
      | succ room =>
          have hmore :=
            groups_writeMore (Nat.le_of_succ_le_succ hroom) hplain hdigit
            (hstop.imp_left Nat.succ.inj)
          have htext : Plain (writeGroups (g :: gs) ++ rest) :=
            (plain_writeGroups _).append hplain
          refine groups_of_group (htext.separated_ipv4_eq_none ':' true)
            ?_ hmore
          rw [writeGroups_cons, List.append_assoc]
          exact group_digits g (hdigit.writeMore_append gs)

/-! ## IPv6 addresses -/

/-- The ends of an address leave the number of zeros between them. -/
theorem ofEnds_eq {ip : Ipv6} {before after : List UInt16} {zeros : Nat}
    (h : ip.groups = before ++ List.replicate zeros 0 ++ after) :
    Ipv6.ofEnds before after = ip := by
  have hlength := congrArg List.length h
  simp only [List.length_append, List.length_replicate, ip.length_eq] at hlength
  have hzeros : 8 - before.length - after.length = zeros := by omega
  have hgroups : (Ipv6.ofEnds before after).groups = ip.groups := by
    simp only [Ipv6.ofEnds, hzeros, ← h]
    exact List.take_of_length_le (Nat.le_of_eq ip.length_eq)
  cases ip
  exact (Ipv6.mk.injEq ..).mpr hgroups

/-- Eight groups are a whole address. -/
theorem ipv6_of_all {head : List UInt16} {dotted : Bool}
    (hall : head.length = 8)
    (hhead : groups 8 true text = ((head, dotted), rest)) :
    ipv6 text = some (.ofEnds head [], rest) := by
  unfold ipv6
  rw [hhead]
  exact if_pos hall

/-- An address around two colons. -/
theorem ipv6_of_ends {head tail : List UInt16} {dotted : Bool}
    {more : List Char}
    (hhead : groups 8 true text = ((head, false), ':' :: ':' :: more))
    (hlt : head.length < 8)
    (htail : groups (7 - head.length) true more = ((tail, dotted), rest)) :
    ipv6 text = some (.ofEnds head tail, rest) := by
  unfold ipv6
  rw [hhead]
  dsimp only
  rw [if_neg (Nat.ne_of_lt hlt), if_neg Bool.false_ne_true]
  simp only [expect_cons, htail, Option.bind_eq_bind, Option.bind_some]
  rfl

/-- The quad behind `::ffff:` fills the last two groups. -/
theorem ipv6_mapped {ip : Ipv6} {quad : Ipv4} (hmaps : ip.Maps quad)
    (h : NoDigit 10 rest) :
    ipv6 ("::ffff:".toList ++ quad.write ++ rest) = some (ip, rest) := by
  have hquad : separated ':' false ipv4 (':' :: (quad.write ++ rest)) =
      some (quad, rest) := by
    rw [separated_cons]
    exact ipv4_write quad h
  have hgroup : group ("ffff".toList ++ ':' :: (quad.write ++ rest)) =
      some (0xffff, ':' :: (quad.write ++ rest)) :=
    group_digits 0xffff (.cons rfl _)
  have htail : groups 7 true ("ffff".toList ++ ':' :: (quad.write ++ rest)) =
      ((0xffff :: groupsOf quad, true), rest) :=
    groups_of_group rfl hgroup (groups_of_quad (by decide) hquad)
  have hhead : groups 8 true ("::ffff:".toList ++ quad.write ++ rest) =
      (([], false),
        ':' :: ':' :: ("ffff".toList ++ ':' :: (quad.write ++ rest))) := rfl
  have hsplit :
      ip.groups = [] ++ List.replicate 5 0 ++ (0xffff :: groupsOf quad) := hmaps
  rw [ipv6_of_ends hhead (by decide) htail, ofEnds_eq hsplit]

/-- **Zeros come back where they were left out**, whatever run of them it
was. -/
theorem ipv6_shortened {ip : Ipv6} {before after : List UInt16} {zeros : Nat}
    (hsplit : ip.groups = before ++ List.replicate zeros 0 ++ after)
    (hzeros : 0 < zeros) (h : Ending rest) :
    ipv6 (writeGroups before ++ "::".toList ++ writeGroups after ++ rest) =
      some (ip, rest) := by
  have hlength := congrArg List.length hsplit
  simp only [List.length_append, List.length_replicate, ip.length_eq] at hlength
  have hcolons : Plain (':' :: ':' :: (writeGroups after ++ rest)) :=
    (((plain_writeGroups after).append h.plain).cons (by decide)).cons
      (by decide)
  have hstop : separated ':' false group
      (':' :: ':' :: (writeGroups after ++ rest)) = none := by
    rw [separated_cons]
    exact NoDigit.group_eq_none (.cons rfl _)
  have hhead :=
    groups_writeGroups (by omega : before.length ≤ 8) hcolons (.cons rfl _)
    (Or.inr hstop)
  have htail := groups_writeGroups (by omega : after.length ≤ 7 - before.length)
      h.plain h.digit
    (Or.inr (separated_eq_none _ h.colon))
  rw [← ofEnds_eq hsplit, ← ipv6_of_ends hhead (by omega) htail]
  simp

/-- **An IPv6 address is read as it was written.** -/
theorem ipv6_write (ip : Ipv6) (h : Ending rest) :
    ipv6 (ip.write ++ rest) = some (ip, rest) := by
  have hform := ip.form_write
  generalize ip.write = text at hform
  cases hform with
  | mapped hmaps => exact ipv6_mapped hmaps (h.digit.of_le (by decide))
  | shortened _ htwo hrun =>
      exact ipv6_shortened hrun.split (Nat.lt_of_succ_lt htwo) h
  | full =>
      have hroom : ip.groups.length = 8 := ip.length_eq
      have hhead :=
        groups_writeGroups (Nat.le_of_eq hroom) h.plain h.digit (Or.inl hroom)
      have hsplit : ip.groups = ip.groups ++ List.replicate 0 0 ++ [] := by simp
      rw [ipv6_of_all hroom hhead, ofEnds_eq hsplit]

/-! ## Addresses alone -/

/-- There is no quad at the front of an IPv6 address. -/
theorem ipv4_write_ipv6 (ip : Ipv6) : ipv4 ip.write = none := by
  have hform := ip.form_write
  generalize ip.write = text at hform
  cases hform with
  | mapped => rfl
  | @shortened before after =>
      have hfront : Plain (writeGroups before ++ "::".toList) :=
        (plain_writeGroups before).append (by decide)
      exact (hfront.append (plain_writeGroups after)).ipv4_eq_none
  | full => exact (plain_writeGroups _).ipv4_eq_none

/-- An address of either kind is read as it was written; what begins as an IPv4
address is one. -/
theorem ipAddress_write (ip : IpAddress) :
    ipAddress ip.write = some (ip, []) := by
  cases ip with
  | v4 ip =>
      have hread := ipv4_write ip .nil
      rw [List.append_nil] at hread
      simp only [IpAddress.write, ipAddress, hread]
  | v6 ip =>
      have hread := ipv6_write ip .nil
      rw [List.append_nil] at hread
      simp only [IpAddress.write, ipAddress, ipv4_write_ipv6 ip, hread,
        Option.map_some]

/-! ## Addresses with a port -/

/-- **A number behind a mark** is read as it was written. -/
theorem marked_digits {α : Type} {mark : Char} {bound n : Nat} {f : Nat → α}
    (hn : n < bound) (hrest : NoDigit 10 rest) :
    (do
      let (_, text) ← expect mark (mark :: (digits 10 n ++ rest))
      let (n, text) ← number 10 bound none true text
      pure (f n, text)) = some (f n, rest) := by
  have hnumber : number 10 bound none true (digits 10 n ++ rest) =
      some (n, rest) :=
    number_digits (by decide) (by decide) hn (by simp) hrest
  simp only [expect_cons, hnumber, Option.bind_eq_bind, Option.bind_some]
  rfl

/-- A port is read as it was written. -/
theorem port_digits (p : UInt16) :
    port (':' :: digits 10 p.toNat) = some (p, []) := by
  have hread : port (':' :: (digits 10 p.toNat ++ [])) =
      some (UInt16.ofNat p.toNat, []) :=
    marked_digits p.toNat_lt .nil
  rwa [UInt16.ofNat_toNat, List.append_nil] at hread

/-- A scope is written behind a percent sign, and none is not written. -/
def writeScope (s : UInt32) : List Char :=
  if s = 0 then [] else '%' :: digits 10 s.toNat

/-- A scope is read as it was written; the scope zero is not written, and zero
is what its absence stands for. -/
theorem scope_writeScope (s : UInt32) (rest : List Char) :
    (scope (writeScope s ++ ']' :: rest)).getD
      (0, writeScope s ++ ']' :: rest) =
      (s, ']' :: rest) := by
  unfold writeScope
  by_cases hs : s = 0
  · rw [if_pos hs, hs]
    rfl
  · have hread : scope ('%' :: (digits 10 s.toNat ++ ']' :: rest)) =
        some (UInt32.ofNat s.toNat, ']' :: rest) :=
      marked_digits s.toNat_lt (.cons rfl rest)
    rw [if_neg hs, List.cons_append, hread, UInt32.ofNat_toNat]
    rfl

/-- Behind an IPv6 address in brackets stands a percent sign or the bracket. -/
theorem ending_writeScope (s : UInt32) (h : Plain rest) :
    Ending (writeScope s ++ ']' :: rest) := by
  have hclose : Ending (']' :: rest) := .cons (by decide) rfl (by decide) h
  unfold writeScope
  split
  · exact hclose
  · have hdigits : Plain (digits 10 s.toNat) :=
      plain_digits (by decide) (by decide) s.toNat
    exact .cons (by decide) rfl (by decide) (hdigits.append hclose.plain)

/-- The parts of a written socket address, up to the end of each. -/
theorem write_v6 (ip : Ipv6) (p : UInt16) (s : UInt32) :
    (SocketAddress.v6 ip p s).write =
      '[' ::
        (ip.write ++ (writeScope s ++ ']' :: ':' :: digits 10 p.toNat)) := by
  simp [SocketAddress.write, writeScope]

/-- A socket address of either kind is read as it was written. -/
theorem socketAddress_write (address : SocketAddress) :
    socketAddress address.write = some (address, []) := by
  cases address with
  | v4 ip p =>
      have hread : ipv4 (ip.write ++ ':' :: digits 10 p.toNat) =
          some (ip, ':' :: digits 10 p.toNat) := ipv4_write ip (.cons rfl _)
      simp only [SocketAddress.write, socketAddress, socketV4, hread,
        port_digits, Option.bind_eq_bind, Option.bind_some]
      rfl
  | v6 ip p s =>
      have hport : Plain (':' :: digits 10 p.toNat) :=
        (plain_digits (by decide) (by decide) p.toNat).cons (by decide)
      have hbracket (text : List Char) : socketV4 ('[' :: text) = none := rfl
      simp only [write_v6, socketAddress, hbracket, socketV6, expect_cons,
        port_digits, ipv6_write ip (ending_writeScope s hport),
        scope_writeScope, Option.bind_eq_bind, Option.bind_some]
      rfl

end Address

open Address

namespace BindAddress

/-- **What is written is read back**, for addresses with a port and for
addresses alone.

With its port, and in its scope if it has one, an address is read as it was
written; and it is no address alone.  An address alone is read as that address
with the usual port; and it is none with a port.  So only one of the two ways to
read a text is open to it.

An IPv6 address is written in its form and in no other, in lower case: it leaves
out the first of its longest runs of two or more zero groups, and it shows the
IPv4 address that it stands for. -/
theorem written_reads_back :
    (∀ address : SocketAddress,
      parse? address.write = some address ∧
      IpAddress.parse? address.write = none) ∧
    (∀ ip : IpAddress,
      parse? ip.write = some (.ofIp ip 1128) ∧
      SocketAddress.parse? ip.write = none) ∧
    ∀ ip : Ipv6, (∀ text, ip.Form text ↔ text = ip.write) ∧
      ip.write ⊆ "0123456789abcdef:.".toList := by
  refine ⟨?_, ?_, ?_⟩
  · intro address
    have hread : SocketAddress.parse? address.write = some address :=
      whole_eq_some_iff.mpr (socketAddress_write address)
    refine ⟨parse?_of_documented (.reads (.address hread)), ?_⟩
    rw [Option.eq_none_iff_forall_ne_some]
    intro ip hip
    rw [socketAddress_of_ip hip] at hread
    cases hread
  · intro ip
    have hread : IpAddress.parse? ip.write = some ip :=
      whole_eq_some_iff.mpr (ipAddress_write ip)
    exact ⟨parse?_of_documented (.reads (.ip hread)), socketAddress_of_ip hread⟩
  · intro ip
    exact ⟨fun text => Ipv6.form_iff, ip.write_subset⟩

end BindAddress

end GroundLink
