import GroundLink.Address.Usage
import GroundLink.Proofs.Address.Reading

/-!
# What is accepted for a place

A text is accepted if it reads as a place once every `localhost` in it has been
replaced (`parse?_eq_some_iff`).  Each one that is replaced brings three dots
with it, and an address has no more (`Shape.count_dot`), so an accepted text has
one at most.  That one stands where the loopback address can stand in an address
(`Shape.place`): at the very front or behind a colon.  At the front, with
nothing behind it or a port, it is as documented; in front of a digit, and
behind a colon, it is a part of a longer address.
-/

namespace GroundLink

open Address

namespace BindAddress

variable {text : List Char} {address : SocketAddress}

/-! ## The replacement -/

/-- The name is replaced at the front, and the rest is looked through
after it. -/
theorem expandLocalhost_append (rest : List Char) :
    expandLocalhost ("localhost".toList ++ rest) = "127.0.0.1".toList ++
      expandLocalhost rest :=
  rfl

/-- Where the name does not begin, one character is passed. -/
theorem expandLocalhost_cons {c : Char} {rest : List Char}
    (h : ¬"localhost".toList <+: c :: rest) :
    expandLocalhost (c :: rest) = c :: expandLocalhost rest :=
  if_neg (mt List.isPrefixOf_iff_prefix.mp h)

/-- Without an `l` there is nothing to replace. -/
theorem expandLocalhost_of_notMem {before : List Char} (h : 'l' ∉ before)
    (rest : List Char) :
    expandLocalhost (before ++ rest) = before ++ expandLocalhost rest := by
  induction before with
  | nil => rfl
  | cons c before ih =>
      rw [List.mem_cons, not_or] at h
      have hnot : ¬"localhost".toList <+: c :: (before ++ rest) := by
        rintro ⟨more, hmore⟩
        exact h.1 (List.cons.inj hmore).1
      rw [List.cons_append, expandLocalhost_cons hnot, ih h.2, List.cons_append]

/-- A text without an `l` is left as it is. -/
theorem expandLocalhost_eq_self (h : 'l' ∉ text) :
    expandLocalhost text = text := by
  have hexpand := expandLocalhost_of_notMem h []
  rwa [List.append_nil, show expandLocalhost [] = [] from rfl, List.append_nil]
    at hexpand

/-- Either there is nothing to replace, or there is a first place where there
is. -/
theorem expandLocalhost_cases (text : List Char) :
    expandLocalhost text = text ∨ ∃ before after,
    text = before ++ "localhost".toList ++ after ∧
      expandLocalhost text = before ++ "127.0.0.1".toList ++
        expandLocalhost after := by
  induction text with
  | nil => exact Or.inl rfl
  | cons c rest ih =>
      by_cases hhere : "localhost".toList <+: c :: rest
      · obtain ⟨after, hafter⟩ := hhere
        refine Or.inr ⟨[], after, hafter.symm, ?_⟩
        rw [← hafter]
        rfl
      · rw [expandLocalhost_cons hhere]
        rcases ih with hsame | ⟨before, after, rfl, hexpand⟩
        · exact Or.inl (by rw [hsame])
        · exact Or.inr ⟨c :: before, after, rfl, by rw [hexpand]; rfl⟩

/-! ## What is read -/

/-- Whatever is read has the shape of an address. -/
theorem Reads.shape (h : Reads text address) : Shape text := by
  cases h with
  | address h => exact takes_socketAddress.whole h
  | ip h => exact takes_ipAddress.whole h

/-- No address has an `l` in it, so that nothing is replaced in one. -/
theorem Reads.notMem (h : Reads text address) : 'l' ∉ text := by
  intro hmem
  exact absurd (h.shape.mem hmem) (by decide)

/-- An address with a port begins with an IPv4 address or with a bracket. -/
theorem socketAddress_cases {r : SocketAddress × List Char}
    (h : socketAddress text = some r) :
    (∃ ip rest, ipv4 text = some (ip, rest) ∧ (port rest).isSome = true) ∨
      ∃ rest, text = '[' :: rest := by
  unfold socketAddress at h
  split at h
  · next hread =>
      simp only [socketV4, Option.bind_eq_bind, Option.bind_eq_some_iff,
        Prod.exists] at hread
      obtain ⟨ip, rest, hip, p, rest', hport, -⟩ := hread
      exact Or.inl ⟨ip, rest, hip, by rw [hport]; rfl⟩
  · simp only [socketV6, Option.bind_eq_bind, Option.bind_eq_some_iff,
      Prod.exists] at h
    obtain ⟨_, rest, hopen, -⟩ := h
    obtain ⟨_, rfl, rfl⟩ := takes_expect '[' hopen
    exact Or.inr ⟨rest, rfl⟩

/-- An address alone is none with a port. -/
theorem socketAddress_of_ip {ip : IpAddress}
    (h : IpAddress.parse? text = some ip) :
    SocketAddress.parse? text = none := by
  have hip : ipAddress text = some (ip, []) := whole_eq_some_iff.mp h
  rw [Option.eq_none_iff_forall_ne_some]
  intro address haddress
  rcases socketAddress_cases (whole_eq_some_iff.mp haddress) with
    ⟨ip', rest, hipv4, hport⟩ | ⟨rest, rfl⟩
  · -- nothing is left for a port
    unfold ipAddress at hip
    rw [hipv4] at hip
    cases hip
    cases hport
  · -- no address alone begins with a bracket
    have hnone : ipAddress ('[' :: rest) = none := rfl
    rw [hnone] at hip
    cases hip

/-- **What is accepted** is what reads as a place once the name has been
replaced. -/
theorem parse?_eq_some_iff :
    parse? text = some address ↔ Reads (expandLocalhost text) address := by
  unfold parse?
  dsimp only
  constructor
  · intro h
    split at h
    · next hsocket =>
        cases h
        exact .address hsocket
    · obtain ⟨ip, hip, rfl⟩ := Option.map_eq_some_iff.mp h
      exact .ip hip
  · intro h
    cases h with
    | address hsocket => rw [hsocket]
    | ip hip => rw [socketAddress_of_ip hip, hip]; rfl

/-! ## The loopback address -/

/-- The loopback address ends where its digits end. -/
theorem ipv4_loopback {rest : List Char} (hrest : NoDigit 10 rest) :
    ipv4 ("127.0.0.1".toList ++ rest) = some (.loopback, rest) := by
  have hlast : octet ('1' :: rest) = some (1, rest) :=
    @octet_append ['1'] rest 1 rfl hrest
  have hread : ipv4 ("127.0.0.1".toList ++ rest) =
      (octet ('1' :: rest)).bind fun r => some (⟨127, 0, 0, r.1⟩, r.2) := rfl
  rw [hread, hlast]
  rfl

/-- Behind the loopback address a socket address has its port. -/
theorem socketAddress_loopback {rest : List Char} (hrest : NoDigit 10 rest) :
    socketAddress ("127.0.0.1".toList ++ rest) =
      (port rest).map fun r => (.v4 .loopback r.1, r.2) := by
  have hbracket : socketV6 ("127.0.0.1".toList ++ rest) = none := rfl
  unfold socketAddress socketV4
  rw [hbracket, ipv4_loopback hrest]
  cases hport : port rest <;> simp [hport]

/-- **With the loopback address at the front** and no digits behind it, there is
a port behind it or nothing. -/
theorem reads_loopback_iff {rest : List Char} (hrest : NoDigit 10 rest) :
    Reads ("127.0.0.1".toList ++ rest) address ↔
      rest = [] ∧ address = .v4 .loopback 1128 ∨
        ∃ p, whole port rest = some p ∧ address = .v4 .loopback p := by
  have hip : ipAddress ("127.0.0.1".toList ++ rest) =
      some (.v4 .loopback, rest) := by
    unfold ipAddress
    rw [ipv4_loopback hrest]
  constructor
  · intro h
    cases h with
    | address h =>
        have hread := whole_eq_some_iff.mp h
        rw [socketAddress_loopback hrest] at hread
        obtain ⟨⟨p, rest'⟩, hport, hpair⟩ := Option.map_eq_some_iff.mp hread
        cases hpair
        exact Or.inr ⟨p, whole_eq_some_iff.mpr hport, rfl⟩
    | ip h =>
        have hread := whole_eq_some_iff.mp h
        rw [hip] at hread
        cases hread
        exact Or.inl ⟨rfl, rfl⟩
  · rintro (⟨rfl, rfl⟩ | ⟨p, hport, rfl⟩)
    · exact .ip (whole_eq_some_iff.mpr hip)
    · refine .address (whole_eq_some_iff.mpr ?_)
      rw [socketAddress_loopback hrest, whole_eq_some_iff.mp hport]
      rfl

/-- There is no `l` in a port. -/
theorem notMem_of_port {p : UInt16} (h : whole port text = some p) :
    'l' ∉ text :=
  (takes_port.whole h).notMem (by decide)

/-! ## Where the name can stand -/

/-- A text is accepted with one name in it if it is an address with the loopback
address there. -/
theorem parse?_splice (before after : List Char) (hbefore : 'l' ∉ before)
    (hafter : 'l' ∉ after) :
    parse? (before ++ "localhost".toList ++ after) = some address ↔
      Reads (before ++ "127.0.0.1".toList ++ after) address := by
  rw [parse?_eq_some_iff, List.append_assoc, expandLocalhost_of_notMem hbefore,
    expandLocalhost_append, expandLocalhost_eq_self hafter, List.append_assoc]

/-- There is no `l` on either side of the loopback address. -/
theorem notMem_of_splice (before after : List Char)
    (h : Reads (before ++ "127.0.0.1".toList ++ after) address) :
    'l' ∉ before ∧ 'l' ∉ after := by
  have hnone := h.notMem
  simp only [List.mem_append, not_or] at hnone
  exact ⟨hnone.1.1, hnone.2⟩

/-- **Where the name is replaced**, it stands by itself, in front of a digit or
behind a colon. -/
theorem documented_or_spliced {before after : List Char}
    (h : Reads (before ++ "127.0.0.1".toList ++ after) address) :
    Documented (before ++ "localhost".toList ++ after) address ∨
      Spliced (before ++ "localhost".toList ++ after) address := by
  rcases h.shape.place with rfl | ⟨front, rfl⟩
  · by_cases hdigit : NoDigit 10 after
    · refine Or.inl ?_
      rcases (reads_loopback_iff hdigit).mp h with ⟨rfl, rfl⟩ | ⟨p, hport, rfl⟩
      · exact .localhost
      · -- a port begins with its colon
        cases after with
        | nil => cases hport
        | cons c after =>
            by_cases hc : c = ':'
            · rw [hc] at hport ⊢
              exact .localhostPort hport
            · have hnone : expect ':' (c :: after) = none := if_neg hc
              have hread := whole_eq_some_iff.mp hport
              simp [port, hnone] at hread
    · refine Or.inr ?_
      cases after with
      | nil => exact absurd .nil hdigit
      | cons d after =>
          have hd : (digitValue? 10 d).isSome = true := by
            rw [Option.isSome_iff_ne_none]
            exact fun hnone => hdigit (.cons hnone after)
          exact .digit hd h
  · exact Or.inr (.colon h)

/-- Every documented text is accepted, with its documented meaning. -/
theorem parse?_of_documented (h : Documented text address) :
    parse? text = some address := by
  cases h with
  | reads h => rwa [parse?_eq_some_iff, expandLocalhost_eq_self h.notMem]
  | localhost =>
      have hreads := (reads_loopback_iff .nil).mpr (Or.inl ⟨rfl, rfl⟩)
      exact (parse?_splice [] [] nofun nofun).mpr hreads
  | @localhostPort text p hport =>
      have hcolon : NoDigit 10 (':' :: text) := .cons rfl text
      have hreads := (reads_loopback_iff hcolon).mpr (Or.inr ⟨p, hport, rfl⟩)
      exact (parse?_splice [] (':' :: text) nofun (notMem_of_port hport)).mpr
        hreads

/-- A text is accepted as well where the name stands in front of a digit, or
behind a colon of an address. -/
theorem parse?_of_spliced (h : Spliced text address) :
    parse? text = some address := by
  cases h with
  | @digit d after _ _ h =>
      have hafter := (notMem_of_splice [] (d :: after) h).2
      exact (parse?_splice [] (d :: after) nofun hafter).mpr h
  | @colon before after _ h =>
      obtain ⟨hbefore, hafter⟩ := notMem_of_splice (before ++ [':']) after h
      exact (parse?_splice (before ++ [':']) after hbefore hafter).mpr h

/-- **At most one name is replaced** in a text that is accepted: two of them
bring more dots than an address has. -/
theorem documented_or_spliced_of_parse? (h : parse? text = some address) :
    Documented text address ∨ Spliced text address := by
  rw [parse?_eq_some_iff] at h
  rcases expandLocalhost_cases text with hsame | ⟨before, after, rfl, hexpand⟩
  · rw [hsame] at h
    exact Or.inl (.reads h)
  · rw [hexpand] at h
    rcases expandLocalhost_cases after with
        hsame | ⟨middle, rest, rfl, hexpand'⟩
    · rw [hsame] at h
      exact documented_or_spliced h
    · exfalso
      rw [hexpand'] at h
      have hcount := h.shape.count_dot
      have hthree : "127.0.0.1".toList.count '.' = 3 := rfl
      simp only [List.count_append, hthree] at hcount
      omega

/-- The name itself has an `l`. -/
theorem Spliced.mem (h : Spliced text address) : 'l' ∈ text := by
  cases h <;> simp

/-- What is documented has the name by itself. -/
theorem not_spliced_of_documented {other : SocketAddress}
    (h : Documented text address) :
    ¬Spliced text other := by
  intro hspliced
  cases h with
  | reads h => exact h.notMem hspliced.mem
  | localhost =>
      generalize htext : "localhost".toList = text at hspliced
      cases hspliced with
      | digit => simp at htext
      | colon =>
          have hlength := congrArg List.length htext
          simp at hlength
          omega
  | @localhostPort text' p hport =>
      generalize htext : "localhost:".toList ++ text' = text at hspliced
      cases hspliced with
      | @digit d after _ hd =>
          have hname : "localhost".toList ++ ':' :: text' =
              "localhost".toList ++ d :: after := htext
          cases List.append_cancel_left hname
          cases hd
      | @colon before after =>
          -- the letters of the name are all there are, and so it stands at the
          -- front
          have hport' : text'.count 'l' = 0 :=
            List.count_eq_zero.mpr fun hmem =>
              notMem_of_port hport (List.mem_cons_of_mem _ hmem)
          have hcount := congrArg (List.count 'l') htext
          have htwo : "localhost:".toList.count 'l' = 2 := rfl
          have htwo' : "localhost".toList.count 'l' = 2 := rfl
          simp only [List.count_append, htwo, htwo', hport'] at hcount
          cases before with
          | nil => cases htext
          | cons c before =>
              have hc : 'l' = c := (List.cons.inj htext).1
              have hmem : 0 < (c :: before).count 'l' :=
                List.count_pos_iff.mpr (hc ▸ List.mem_cons_self)
              omega

/-- **What is accepted for a place**, and where it goes.  It is what is
documented: an address with a port, an address alone, the name alone or with a
port.  Besides it is what is spliced: an address in which the name stands for
its part `127.0.0.1`, in front of a digit or behind a colon.  Every other text
is refused.  So a text is treated as documented just if it is not spliced in
this way, whatever else it has around the name. -/
theorem accepted_iff (text : List Char) :
    (∀ address, parse? text = some address ↔
      Documented text address ∨ Spliced text address) ∧
      ((∀ address, parse? text = some address ↔ Documented text address) ↔
        ∀ address, ¬Spliced text address) := by
  have haccepted (address : SocketAddress) :
      parse? text = some address ↔ Documented text address ∨
      Spliced text address :=
    ⟨documented_or_spliced_of_parse?, fun h =>
        h.elim parse?_of_documented parse?_of_spliced⟩
  refine ⟨haccepted, ?_, ?_⟩
  · intro hclaim address hspliced
    have hdocumented := (hclaim address).mp (parse?_of_spliced hspliced)
    exact not_spliced_of_documented hdocumented hspliced
  · intro hnone address
    rw [haccepted, or_iff_left (hnone address)]

/-- With a digit behind the name another address is accepted, although it is not
documented. -/
theorem localhost1_accepted :
    parse? "localhost1".toList = some (.v4 ⟨127, 0, 0, 11⟩ 1128) ∧
      ∀ address, ¬Documented "localhost1".toList address := by
  have hread : IpAddress.parse? ("127.0.0.1".toList ++ ['1']) =
      some (.v4 ⟨127, 0, 0, 11⟩) := rfl
  have hspliced :
      Spliced ("localhost".toList ++ ['1']) (.v4 ⟨127, 0, 0, 11⟩ 1128) :=
    .digit rfl (.ip hread)
  exact ⟨parse?_of_spliced hspliced, fun _ h =>
      not_spliced_of_documented h hspliced⟩

end BindAddress

end GroundLink
