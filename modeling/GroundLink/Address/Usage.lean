import GroundLink.Address.Bind

/-!
# What may be written for a place

A place is written as an address with a port, as an address alone for the usual
port, or as `localhost`, alone or with a port (`BindAddress.Documented`).

As `localhost` is replaced wherever it stands, it may also stand inside of an
address, for its part `127.0.0.1` (`BindAddress.Spliced`): in front of more
digits of the last number, or behind a colon, at the end of an IPv6 address.
-/

namespace GroundLink

/-- The address of this machine. -/
def Ipv4.loopback : Ipv4 := ⟨127, 0, 0, 1⟩

namespace BindAddress

/-- A text as it stands, without any replacement. -/
inductive Reads : List Char → SocketAddress → Prop
  | address {text : List Char} {address : SocketAddress}
      (h : SocketAddress.parse? text = some address) : Reads text address
  | ip {text : List Char} {ip : IpAddress}
      (h : IpAddress.parse? text = some ip) :
      Reads text (.ofIp ip 1128)

/-- **What is documented.** -/
inductive Documented : List Char → SocketAddress → Prop
  | reads {text : List Char} {address : SocketAddress}
      (h : Reads text address) :
      Documented text address
  | localhost : Documented "localhost".toList (.v4 .loopback 1128)
  | localhostPort {text : List Char} {port : UInt16}
      (h : Address.whole Address.port (':' :: text) = some port) :
      Documented ("localhost:".toList ++ text) (.v4 .loopback port)

/-- **What is accepted besides**: an address with `localhost` for a part of
it. -/
inductive Spliced : List Char → SocketAddress → Prop
  | digit {d : Char} {after : List Char} {address : SocketAddress}
      (hd : (Address.digitValue? 10 d).isSome = true)
      (h : Reads ("127.0.0.1".toList ++ d :: after) address) :
      Spliced ("localhost".toList ++ d :: after) address
  | colon {before after : List Char} {address : SocketAddress}
      (h : Reads (before ++ [':'] ++ "127.0.0.1".toList ++ after) address) :
      Spliced (before ++ [':'] ++ "localhost".toList ++ after) address

end BindAddress

end GroundLink
