/-!
# What can go wrong

The errors of a station, and the reasons for which a handler does not take a
frame, each with its text.
-/

namespace GroundLink

/-- Why a station refuses. -/
inductive Error
  /-- A fault of the system below. -/
  | transport (text : String)
  /-- Every one of so many channels is taken. -/
  | poolExhausted (capacity : Nat)
  | serial (device : String) (text : String)
  | invalidConfig (reason : String)
deriving Repr, DecidableEq

namespace Error

def message : Error → String
  | .transport text => s!"I/O error: {text}"
  | .poolExhausted capacity => s!"All {capacity} channels are occupied"
  | .serial device text => s!"Serial device {device}: {text}"
  | .invalidConfig reason => s!"Invalid configuration: {reason}"

/-- The text of the fault behind the error, if there is one. -/
def source : Error → Option String
  | .transport text => some text
  | .serial _ text => some text
  | _ => none

end Error

/-- Why a handler does not take a frame. -/
inductive Refusal
  | unsupported (id : Nat)
  | rejected (reason : String)
deriving Repr, DecidableEq

def Refusal.message : Refusal → String
  | .unsupported id => s!"Unsupported message (id: {id})"
  | .rejected reason => s!"Message rejected: {reason}"

end GroundLink
