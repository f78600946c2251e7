import GroundLink.Address.Parser

/-!
# The written form of IPv6 addresses

Which text stands for an IPv6 address (`Ipv6.Form`), said without a search: the
zero groups that are left out are the longest run of them, and the first of
equally long ones (`Address.LongestRun`).  An address that stands for an IPv4
one shows it.
-/

namespace GroundLink

namespace Address

/-- **The longest run of zero groups**, with the groups before it and after it.
None is longer, and none as long begins earlier. -/
structure LongestRun (groups before : List UInt16) (zeros : Nat)
    (after : List UInt16) : Prop where
  split : groups = before ++ List.replicate zeros 0 ++ after
  longest : ∀ before' zeros' after',
    groups = before' ++ List.replicate zeros' 0 ++ after' →
    zeros' ≤ zeros
  first : ∀ before' after',
    groups = before' ++ List.replicate zeros 0 ++ after' →
    before.length ≤ before'.length

end Address

open Address

namespace Ipv6

/-- The address stands for that IPv4 address. -/
def Maps (ip : Ipv6) (quad : Ipv4) : Prop :=
  ip.groups = [0, 0, 0, 0, 0, 0xffff] ++ groupsOf quad

/-- **How an IPv6 address is written.**  One zero group alone is not left
out. -/
inductive Form (ip : Ipv6) : List Char → Prop
  | mapped {quad : Ipv4} (h : ip.Maps quad) :
      Form ip ("::ffff:".toList ++ quad.write)
  | shortened {before after : List UInt16} {zeros : Nat}
      (hmaps : ∀ quad, ¬ip.Maps quad)
      (htwo : 2 ≤ zeros) (h : LongestRun ip.groups before zeros after) :
      Form ip (writeGroups before ++ "::".toList ++ writeGroups after)
  | full {before after : List UInt16} {zeros : Nat}
      (hmaps : ∀ quad, ¬ip.Maps quad)
      (hshort : zeros < 2) (h : LongestRun ip.groups before zeros after) :
      Form ip (writeGroups ip.groups)

end Ipv6

end GroundLink
