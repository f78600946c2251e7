import GroundLink.CommandLine
import GroundLink.Station.Report

/-!
# The program

One ground link over the standard streams, so that whatever listens at the
address can hand its connections on.  What arrives is read as it comes; the
clock of the station follows that of the machine; what links report goes to the
error stream.  Nothing is decided here.
-/

namespace GroundLink

/-- Bytes asked for in one read, which waits until it has them all. -/
def readSize : USize := 1

/-- Milliseconds between two looks at the streams. -/
def lookInterval : UInt32 := 10

/-- What stands behind the name of a device, as far as opening it shows. -/
def probe (config : Config) : IO Serial.Device := do
  match config.serial with
  | none => pure .missing
  | some serial =>
      try
        let _ ← IO.FS.Handle.mk serial.device .read
        pure .notATerminal
      catch _ => pure .missing

/-- Writes lines to the error stream. -/
def complain (lines : List String) : IO Unit := do
  let err ← IO.getStderr
  for line in lines do
    err.putStrLn line

/-- Lets the station catch up with the machine's clock and hands on what links
wrote. -/
def catchUp (s : Station) (origin : Nat) (known : Nat) : IO Station := do
  let now ← IO.monoNanosNow
  let (s, _) := s.execute (.advance (now - origin - s.clock))
  let (s, reply) := s.execute (.takeWritten 0)
  if let .written bytes := reply then
    let out ← IO.getStdout
    out.write ⟨bytes.toArray⟩
    out.flush
  complain ((s.news known).filterMap Entry.text?)
  pure s

/-- Serves the link until it ends.  Of the journal, `known` entries have been
told. -/
partial def serve (s : Station) (origin known : Nat)
    (input : Task (Except IO.Error ByteArray)) : IO Unit := do
  let s ← catchUp s origin known
  let known := s.journal.length
  if s.lines.all fun line => line.stage == .over then
    complain [s.stats.text]
  else
    let finished ← IO.hasFinished input
    let arrived := if finished then input.get.toOption.getD .empty else .empty
    if 0 < arrived.size then
      let next ← IO.asTask ((← IO.getStdin).read readSize)
      serve (s.execute (.send 0 arrived.toList)).1 origin known next
    else
      let s := if finished then (s.execute (.close 0)).1 else s
      IO.sleep lookInterval
      serve s origin known input

/-- Runs a station with one link over the standard streams. -/
def run (config : Config) : IO UInt32 := do
  match Station.create config .counting with
  | .error error =>
      complain ["Error: " ++ error.message]
      pure 1
  | .ok s =>
      let (s, _) := s.execute (.spawn "stdio" .tcp .memory)
      let (s, reply) := s.execute (.startRun (← probe config))
      match reply with
      | .refused error =>
          complain ["Hub error: " ++ error.message]
          pure 1
      | _ =>
          serve s (← IO.monoNanosNow) 0
            (← IO.asTask ((← IO.getStdin).read readSize))
          pure 0

end GroundLink

open GroundLink in
/-- Does what the arguments ask for. -/
def main (args : List String) : IO UInt32 := do
  match CommandLine.read args with
  | .help =>
      complain CommandLine.usage
      pure 0
  | .badAddress text =>
      complain (CommandLine.complaint text ++ CommandLine.usage)
      pure 1
  | .serve config => run config
