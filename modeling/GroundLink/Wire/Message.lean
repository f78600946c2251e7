import GroundLink.Dialect.Catalogue

/-!
# Messages

A message is a number of the dialect with a payload in full length and good
form.  `Message.parse` is the one way in from bytes; the heartbeats and the
status text that a station sends are built here.  A message that is its own
parse is called valid (`Message.Valid`).
-/

namespace GroundLink

/-- A message: its number, and its payload in full length. -/
structure Message where
  id : Nat
  payload : Bytes
deriving Repr, DecidableEq

/-- Why bytes make no message. -/
inductive ParseError
  | unknownMessage (id : Nat)
  | unknownValue (fault : Dialect.UnknownValue)
deriving Repr, DecidableEq

/-- The text of a refusal to parse. -/
def ParseError.message : ParseError → String
  | .unknownMessage id => s!"Unknown message with ID {id}"
  | .unknownValue fault =>
      "Invalid enum value for enum type \"" ++ fault.enumeration ++ "\", got "
        ++ toString fault.value

/-- What a heartbeat says about its sender. -/
structure Heartbeat where
  customMode : UInt32 := 0
  /-- What kind of vehicle or component speaks. -/
  kind : UInt8 := 0
  autopilot : UInt8 := 0
  baseMode : UInt8 := 0
  status : UInt8 := 4
  version : UInt8 := 3
deriving Repr, DecidableEq

namespace Message

/-! ## Numbers that the station knows -/

def heartbeatId : Nat := 0
def manualControlId : Nat := 69
def commandLongId : Nat := 76
def statusTextId : Nat := 253

/-- The component that flies. -/
def autopilotComponent : UInt8 := 1

/-- The component that films. -/
def cameraComponent : UInt8 := 100

/-! ## From bytes -/

/-- The message of number `id` with that payload, brought into full length and
good form. -/
def parse (id : Nat) (payload : Bytes) : Except ParseError Message :=
  match Dialect.lookup id with
  | none => .error (.unknownMessage id)
  | some kind =>
      match kind.conform payload with
      | .error fault => .error (.unknownValue fault)
      | .ok payload => .ok ⟨id, payload⟩

/-- A message that is its own parse: its number is in the dialect, its payload
has full length, its enumerated fields are good and its flags known. -/
def Valid (m : Message) : Prop := parse m.id m.payload = .ok m

instance (m : Message) : Decidable m.Valid := by
  unfold Valid
  exact match h : parse m.id m.payload with
    | .error _ => isFalse (by simp)
    | .ok m' =>
        if e : m' = m then isTrue (by rw [e]) else isFalse (by simpa using e)

/-- The name of the message; empty outside the dialect. -/
def name (m : Message) : String :=
  ((Dialect.lookup m.id).map Dialect.MessageKind.name).getD ""

/-! ## Heartbeats -/

def isHeartbeat (m : Message) : Bool := m.id == heartbeatId

/-- What the heartbeat says; `none` for any other message. -/
def heartbeat? (m : Message) : Option Heartbeat :=
  if m.isHeartbeat then
    match Bytes.slice 4 5 m.payload with
    | [kind, autopilot, baseMode, status, version] =>
        some { customMode := UInt32.ofNat (Bytes.leValue (m.payload.take 4)),
               kind, autopilot, baseMode, status, version }
    | _ => none
  else none

/-! ## Status text -/

/-- The longest text, in bytes, that one status text carries. -/
def maxStatusText : Nat := 50

/-- A status text.  The text is sent in UTF-8, filled up with zero bytes; one
that is too long is refused. -/
def statusText? (severity : UInt8) (text : String) : Option Message :=
  let bytes := text.toUTF8.toList
  if bytes.length ≤ maxStatusText then
    some ⟨statusTextId, severity :: Bytes.fit maxStatusText bytes⟩
  else none

end Message

namespace Heartbeat

/-- An active autopilot of no particular make. -/
def ofAutopilot (customMode : UInt32) : Heartbeat := { customMode }

/-- An active camera, which is no autopilot. -/
def ofCamera : Heartbeat := { kind := 30, autopilot := 8 }

/-- A ground station, which is no autopilot either. -/
def ofGroundStation : Heartbeat := { kind := 6, autopilot := 8 }

/-- The heartbeat as a message. -/
def toMessage (hb : Heartbeat) : Message :=
  ⟨Message.heartbeatId, Bytes.ofLe 4 hb.customMode.toNat ++
    [hb.kind, hb.autopilot, hb.baseMode, hb.status, hb.version]⟩

end Heartbeat

end GroundLink
