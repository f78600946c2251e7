/-!
# Internet addresses

Addresses of both families, alone and with a port, and how they are written.
An IPv6 address is written in lower case without leading zeros; the longest
run of two or more zero groups, the first of equally long ones, shrinks to
`::`; an IPv4 address inside an IPv6 one keeps its dots.
-/

namespace GroundLink

/-- Four octets. -/
structure Ipv4 where
  a : UInt8
  b : UInt8
  c : UInt8
  d : UInt8
deriving Repr, DecidableEq

/-- Eight groups of sixteen bits. -/
structure Ipv6 where
  groups : List UInt16
  length_eq : groups.length = 8
deriving Repr, DecidableEq

/-- An address of either family. -/
inductive IpAddress
  | v4 (ip : Ipv4)
  | v6 (ip : Ipv6)
deriving Repr, DecidableEq

/-- An address with a port.  An IPv6 one may name the scope it is meant in;
scope zero is none. -/
inductive SocketAddress
  | v4 (ip : Ipv4) (port : UInt16)
  | v6 (ip : Ipv6) (port : UInt16) (scope : UInt32)
deriving Repr, DecidableEq

/-- The address with a port, in no particular scope. -/
def SocketAddress.ofIp (ip : IpAddress) (port : UInt16) : SocketAddress :=
  match ip with
  | .v4 ip => .v4 ip port
  | .v6 ip => .v6 ip port 0

namespace Ipv6

/-- The address with `head` at its front, `tail` at its end and zeros
between. -/
def ofEnds (head tail : List UInt16) : Ipv6 where
  groups :=
    (head ++ List.replicate (8 - head.length - tail.length) 0 ++ tail).take 8
  length_eq := by
    simp only [List.length_take, List.length_append, List.length_replicate]
    omega

/-- The IPv4 address that stands behind `::ffff:`, if one does. -/
def mapped? (ip : Ipv6) : Option Ipv4 :=
  match ip.groups with
  | [0, 0, 0, 0, 0, 0xffff, x, y] =>
      some ⟨(x >>> 8).toUInt8, x.toUInt8, (y >>> 8).toUInt8, y.toUInt8⟩
  | _ => none

end Ipv6

/-! ## Writing -/

namespace Address

/-- A number in base `base`, without leading zeros. -/
def digits (base n : Nat) : List Char := Nat.toDigits base n

/-- Groups in hexadecimal with colons between them. -/
def writeGroups : List UInt16 → List Char
  | [] => []
  | [g] => digits 16 g.toNat
  | g :: rest => digits 16 g.toNat ++ ':' :: writeGroups rest

/-- How many zero groups stand at the front. -/
def leadingZeros (groups : List UInt16) : Nat :=
  (groups.takeWhile (· == 0)).length

/-- Where the longest run of zero groups starts, counted from `start`, and how
long it is; of equally long ones it is the first. -/
def longestZeros : (start : Nat) → List UInt16 → Nat × Nat
  | start, [] => (start, 0)
  | start, g :: rest =>
      let here := leadingZeros (g :: rest)
      let later := longestZeros (start + 1) rest
      if later.2 ≤ here then (start, here) else later

end Address

open Address

/-- Four decimal numbers with dots between them. -/
def Ipv4.write (ip : Ipv4) : List Char :=
  digits 10 ip.a.toNat ++ '.' :: digits 10 ip.b.toNat ++ '.' ::
    digits 10 ip.c.toNat
    ++ '.' :: digits 10 ip.d.toNat

def Ipv6.write (ip : Ipv6) : List Char :=
  match ip.mapped? with
  | some ip => "::ffff:".toList ++ ip.write
  | none =>
      let (start, length) := longestZeros 0 ip.groups
      if 2 ≤ length then
        writeGroups (ip.groups.take start) ++ "::".toList
          ++ writeGroups (ip.groups.drop (start + length))
      else writeGroups ip.groups

def IpAddress.write : IpAddress → List Char
  | .v4 ip => ip.write
  | .v6 ip => ip.write

def SocketAddress.write : SocketAddress → List Char
  | .v4 ip port => ip.write ++ ':' :: digits 10 port.toNat
  | .v6 ip port scope =>
      let inScope := if scope = 0 then [] else '%' :: digits 10 scope.toNat
      '[' :: ip.write ++ inScope ++ "]:".toList ++ digits 10 port.toNat

/-- The text of an address with a port. -/
def SocketAddress.text (a : SocketAddress) : String := String.ofList a.write

end GroundLink
