import GroundLink.Error
import GroundLink.Wire.Frame

/-!
# Handlers

A handler decides on every frame that a link decodes.  What it refuses is
counted and otherwise ignored; a refused heartbeat still shows that the other
side is there.
-/

namespace GroundLink

/-- What decides on frames. -/
structure Handler where
  verdict : Frame → Except Refusal Unit
  /-- Whether it says at the end of a link how many frames it has seen. -/
  reportsTotal : Bool := false

namespace Handler

/-- Takes messages of the given numbers and knows no others. -/
def only (ids : List Nat) (f : Frame) : Except Refusal Unit :=
  if f.message.id ∈ ids then .ok () else .error (.unsupported f.message.id)

/-- Knows heartbeats and does nothing with them. -/
def heartbeatsOnly : Handler where
  verdict := only [Message.heartbeatId]

/-- Counts frames; knows heartbeats and manual control. -/
def counting : Handler where
  verdict := only [Message.heartbeatId, Message.manualControlId]
  reportsTotal := true

/-- Takes everything. -/
def accepting : Handler where
  verdict _ := .ok ()

/-- Refuses everything. -/
def rejecting : Handler where
  verdict f := .error (.rejected s!"no {f.message.id}")

end Handler

end GroundLink
