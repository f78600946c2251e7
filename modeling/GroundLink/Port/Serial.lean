import GroundLink.Error

/-!
# Serial lines

Opening a line names a device and a speed.  What can be said without the line
itself is why it does not open: there is no such device, the speed is none of
those supported, or the device is no terminal.  They are noticed in that order.
-/

namespace GroundLink

/-- Where a serial line is and how fast it runs. -/
structure SerialConfig where
  device : String := "/dev/ttyS0"
  baud : Nat := 57600
deriving Repr, DecidableEq

namespace Serial

/-- What stands behind a device name. -/
inductive Device
  | missing
  /-- It opens, but it has no line settings. -/
  | notATerminal
  | terminal
deriving Repr, DecidableEq

/-- The speeds that a line can be set to. -/
def supportedBauds : List Nat :=
  [9600, 19200, 38400, 57600, 115200, 230400, 460800, 921600]

/-- Opens a line, given what stands behind its name. -/
def openLine (device : Device) (config : SerialConfig) : Except Error Unit :=
  match device with
  | .missing =>
      .error (.serial config.device "No such file or directory (os error 2)")
  | _ =>
      if config.baud ∉ supportedBauds then
        .error (.serial config.device s!"unsupported baud rate {config.baud}")
      else if device = .notATerminal then
        .error
          (.serial config.device "Inappropriate ioctl for device (os error 25)")
      else .ok ()

end Serial

end GroundLink
