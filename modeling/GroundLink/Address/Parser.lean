import GroundLink.Address.Basic

/-!
# Reading addresses

A reader takes what it can use off the front of the text and hands back the
rest, or takes nothing.  Decimal octets have at most three digits and no
leading zero; groups have one to four hexadecimal digits; ports and scopes are
decimal and may have leading zeros.  In an IPv6 address one `::` may stand for
one or more groups of zeros, and the last two groups may be written as an IPv4
address.  A text is an address only if nothing is left over.
-/

namespace GroundLink

namespace Address

/-- A reader of some prefix of the text. -/
abbrev Reader (α : Type) := List Char → Option (α × List Char)

/-- The worth of a digit in base `base`. -/
def digitValue? (base : Nat) (c : Char) : Option Nat :=
  let value :=
    if '0' ≤ c ∧ c ≤ '9' then some (c.toNat - '0'.toNat)
    else if 'a' ≤ c ∧ c ≤ 'f' then some (c.toNat - 'a'.toNat + 10)
    else if 'A' ≤ c ∧ c ≤ 'F' then some (c.toNat - 'A'.toNat + 10)
    else none
  value.filter (· < base)

/-- The digits at the front of a text. -/
def leadingDigits (base : Nat) (text : List Char) : List Char :=
  text.takeWhile fun c => (digitValue? base c).isSome

/-- The number that digits stand for. -/
def digitsValue (base : Nat) (ds : List Char) : Nat :=
  ds.foldl (fun n c => n * base + (digitValue? base c).getD 0) 0

/-- A number below `bound`: all the digits at the front, at least one, at most
`maxDigits` if that is given; leading zeros only where they are allowed. -/
def number (base bound : Nat) (maxDigits : Option Nat) (leadingZero : Bool) :
    Reader Nat :=
  fun text =>
    let ds := leadingDigits base text
    let value := digitsValue base ds
    if ds.isEmpty || maxDigits.any (· < ds.length) then none
    else if ! leadingZero && ds.head? == some '0' && 1 < ds.length then none
    else if value < bound then some (value, text.drop ds.length)
    else none

/-- Exactly that character. -/
def expect (c : Char) : Reader Unit
  | [] => none
  | d :: rest => if d = c then some ((), rest) else none

/-- A separator in front of every item but the first. -/
def separated {α : Type} (c : Char) (isFirst : Bool) (item : Reader α) :
    Reader α :=
  fun text =>
    if isFirst then item text
    else (expect c text).bind fun (_, rest) => item rest

/-- One octet of an IPv4 address. -/
def octet : Reader UInt8 := fun text =>
  (number 10 256 (some 3) false text).map fun (n, rest) => (UInt8.ofNat n, rest)

/-- One group of an IPv6 address. -/
def group : Reader UInt16 := fun text =>
  (number 16 65536 (some 4) true text).map fun (n, rest) =>
    (UInt16.ofNat n, rest)

def ipv4 : Reader Ipv4 := fun text => do
  let (a, text) ← octet text
  let (b, text) ← separated '.' false octet text
  let (c, text) ← separated '.' false octet text
  let (d, text) ← separated '.' false octet text
  pure (⟨a, b, c, d⟩, text)

/-- The two groups that an IPv4 address fills. -/
def groupsOf (ip : Ipv4) : List UInt16 :=
  [(ip.a.toUInt16 <<< 8) ||| ip.b.toUInt16, (ip.c.toUInt16 <<< 8) |||
    ip.d.toUInt16]

/-- As many groups as there are, but no more than there is room for.  Where two
more fit, an IPv4 address may stand for them and ends the run; the flag says
whether one did. -/
def groups :
    (room : Nat) → (isFirst : Bool) → List Char →
    (List UInt16 × Bool) × List Char
  | 0, _, text => (([], false), text)
  | room + 1, isFirst, text =>
      match if 1 ≤ room then separated ':' isFirst ipv4 text else none with
      | some (ip, rest) => ((groupsOf ip, true), rest)
      | none =>
          match separated ':' isFirst group text with
          | some (g, rest) =>
              let ((gs, dotted), rest) := groups room false rest
              ((g :: gs, dotted), rest)
          | none => (([], false), text)

/-- Eight groups, or fewer around one `::`.  Dots are for the last groups
only. -/
def ipv6 : Reader Ipv6 := fun text =>
  let ((head, dotted), rest) := groups 8 true text
  if head.length = 8 then some (.ofEnds head [], rest)
  else if dotted then none
  else do
    let (_, rest) ← expect ':' rest
    let (_, rest) ← expect ':' rest
    let ((tail, _), rest) := groups (7 - head.length) true rest
    pure (.ofEnds head tail, rest)

def ipAddress : Reader IpAddress := fun text =>
  match ipv4 text with
  | some (ip, rest) => some (.v4 ip, rest)
  | none => (ipv6 text).map fun (ip, rest) => (.v6 ip, rest)

/-- A colon and a port. -/
def port : Reader UInt16 := fun text => do
  let (_, text) ← expect ':' text
  let (n, text) ← number 10 65536 none true text
  pure (UInt16.ofNat n, text)

/-- A percent sign and the number of a scope. -/
def scope : Reader UInt32 := fun text => do
  let (_, text) ← expect '%' text
  let (n, text) ← number 10 4294967296 none true text
  pure (UInt32.ofNat n, text)

def socketV4 : Reader SocketAddress := fun text => do
  let (ip, text) ← ipv4 text
  let (p, text) ← port text
  pure (.v4 ip p, text)

def socketV6 : Reader SocketAddress := fun text => do
  let (_, text) ← expect '[' text
  let (ip, text) ← ipv6 text
  let (s, text) := (scope text).getD (0, text)
  let (_, text) ← expect ']' text
  let (p, text) ← port text
  pure (.v6 ip p s, text)

def socketAddress : Reader SocketAddress := fun text =>
  match socketV4 text with
  | some r => some r
  | none => socketV6 text

/-- What a reader makes of a text with nothing left over. -/
def whole {α : Type} (reader : Reader α) (text : List Char) : Option α :=
  match reader text with
  | some (a, []) => some a
  | _ => none

end Address

/-- The address that a text is, if it is one. -/
def IpAddress.parse? (text : List Char) : Option IpAddress :=
  Address.whole Address.ipAddress text

/-- The address with a port that a text is, if it is one. -/
def SocketAddress.parse? (text : List Char) : Option SocketAddress :=
  Address.whole Address.socketAddress text

end GroundLink
