import OsdpTrace.Trace.Service

/-!
The operations that change a trace service, as data. A run of the service is a list of
commands performed in order from a new service; the queries are functions of the state a run
reaches and change nothing. A capture and a change of settings end by enforcing the global
limit, which visits the reader map; each carries the order of that visit, which the map's hashing
chooses, so a statement about every run holds whatever orders the map takes.
-/
namespace OsdpTrace

/-- An operation that changes a trace service. -/
inductive Command where
  | start (id : ReaderId)
  | stop (id : ReaderId)
  /-- Start every reader a directory lists; `none` is a directory that cannot list them. -/
  | startAll (directory : Option (List ReaderId))
  | stopAll
  | remove (id : ReaderId)
  | clear (id : Option ReaderId)
  | capture (c : Capture) (place : ReaderId → Nat)
  | updateSettings (settings : Settings) (place : ReaderId → Nat)
  | sweep (now : Instant)

namespace Service

def perform (decode : List UInt8 → Option Frame) (s : Service) : Command → Service
  | .start id => s.start id
  | .stop id => s.stop id
  | .startAll directory => (s.startAll directory).1
  | .stopAll => s.stopAll
  | .remove id => s.remove id
  | .clear id => s.clear id
  | .capture c place => (s.capture decode c place).1
  | .updateSettings settings place => s.updateSettings settings place
  | .sweep now => (s.sweep now).1

def run (decode : List UInt8 → Option Frame) (s : Service) (commands : List Command) : Service :=
  commands.foldl (perform decode) s

end Service

end OsdpTrace
