import GroundLink.Station.Command

/-!
# Reports in words

What a station tells whoever watches it: one line for each event of a link that
matters to an operator, and one with its counters.
-/

namespace GroundLink

namespace Report

/-- The report of a link that has ended. -/
def text (r : Report) : String :=
  s!"Link terminated: {r.exit.message}, "
    ++ s!"in {r.stats.bytesIn}, out {r.stats.bytesOut}, "
    ++ s!"frames {r.stats.framesIn}, refused {r.stats.dispatchFailures}, "
    ++ s!"write errors {r.stats.writeErrors}, "
    ++ s!"parse errors {r.stats.parseErrors}, "
    ++ s!"bytes a second {r.rxRate}, milliseconds {r.duration / millisecond}"

end Report

/-- An event in words, if it matters to an operator. -/
def Event.text? : Event → Option String
  | .begun channel transport =>
      some s!"Link started on channel {channel} ({transport.name})"
  | .activated => some "Link active"
  | .idled => some "Link idle"
  | .terminated report => some report.text
  | .frameTotal frames => some s!"Frames in all: {frames}"
  | _ => none

/-- An entry of the journal in words, if it matters to an operator. -/
def Entry.text? : Entry → Option String
  | .event link _ e => e.text?.map fun text => link ++ ": " ++ text
  | .ended .. => none

/-- The counters of a station in words. -/
def StationStats.text (s : StationStats) : String :=
  s!"Station: active {s.active}, occupied {s.occupied} of {s.channels}, "
    ++ s!"refused {s.refused}, dropped bytes {s.dropped}"

namespace Station

/-- What was written to the journal since it had `known` entries, the oldest
first. -/
def news (s : Station) (known : Nat) : List Entry :=
  (s.journal.take (s.journal.length - known)).reverse

end Station

end GroundLink
