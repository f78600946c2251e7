import GroundLink.Station.Config

/-!
# The command line

A station can be told where to listen and which serial device to use; for both
there is a usual choice.  `CommandLine.read` decides what the arguments ask for.
-/

namespace GroundLink

/-- What the arguments ask for. -/
inductive CommandLine
  | help
  /-- The place to listen at makes no sense. -/
  | badAddress (text : String)
  | serve (config : Config)
deriving Repr, DecidableEq

namespace CommandLine

/-- How the program is called. -/
def usage : List String :=
  ["Usage: groundlink [TCP_BIND_ADDR] [SERIAL_DEVICE]",
   "",
   "Arguments:",
   "  TCP_BIND_ADDR    Address to listen on (default: 0.0.0.0:1128)",
   "  SERIAL_DEVICE    Serial radio at 57600 baud (default: none)"]

/-- The configuration that listens at `bind` and uses that serial device. -/
def configure (bind : Option SocketAddress) (device : Option String) : Config :=
  { tcp := some (bind.elim {} fun bind => { bind })
    serial := device.map fun device => { device } }

/-- Reads the arguments.  A wish for help comes before all else. -/
def read (args : List String) : CommandLine :=
  if args.any fun a => a == "--help" || a == "-h" then .help
  else
    match args with
    | [] => .serve (configure none none)
    | address :: rest =>
        match BindAddress.parse? address.toList with
        | none => .badAddress address
        | some bind => .serve (configure (some bind) rest.head?)

/-- What is said about a place that makes no sense, before the usage. -/
def complaint (address : String) : List String :=
  ["Error: " ++ BindAddress.refusal address, ""]

end CommandLine

end GroundLink
