import GroundLink.Address.Parser

/-!
# Where to listen

The place to listen at is given as an address with a port, or as an address
alone for the usual port.  The name `localhost` may be written for the address
of this machine; it is replaced wherever it stands before the text is read.
-/

namespace GroundLink

namespace BindAddress

/-- The port where none is given. -/
def defaultPort : UInt16 := 1128

/-- Writes the loopback address for every `localhost`, from left to right.  Of
the one that was found last, `skip` characters are still to be passed over. -/
def expandFrom : (skip : Nat) → List Char → List Char
  | _, [] => []
  | skip + 1, _ :: rest => expandFrom skip rest
  | 0, c :: rest =>
      if "localhost".toList.isPrefixOf (c :: rest) then "127.0.0.1".toList ++
        expandFrom 8 rest
      else c :: expandFrom 0 rest

/-- Writes the loopback address for every `localhost`. -/
def expandLocalhost (text : List Char) : List Char := expandFrom 0 text

/-- The place that a text names. -/
def parse? (text : List Char) : Option SocketAddress :=
  let text := expandLocalhost text
  match SocketAddress.parse? text with
  | some address => some address
  | none => (IpAddress.parse? text).map (SocketAddress.ofIp · defaultPort)

/-- What is said about a text that names no place. -/
def refusal (text : String) : String :=
  "Invalid bind address: '" ++ text ++
    "'. Expected format: IP:PORT or IP or 'localhost'"

end BindAddress

end GroundLink
