/-!
Spans of time, counted in whole nanoseconds. A span is never negative. Spans are built from
nanoseconds, milliseconds or seconds, and read back in whole milliseconds (rounded down) or as
a float of seconds, which adds the whole seconds to the fraction in one rounding each.
-/
namespace OsdpTrace

/-- A span of time in nanoseconds. -/
structure Span where
  nanos : Nat
deriving DecidableEq, Repr, Inhabited

namespace Span

def nanosPerMilli : Nat := 1000000

def nanosPerSec : Nat := 1000000000

def ofMillis (n : Nat) : Span := ⟨n * nanosPerMilli⟩

def ofSecs (n : Nat) : Span := ⟨n * nanosPerSec⟩

def zero : Span := ⟨0⟩

def isZero (s : Span) : Bool := s.nanos == 0

def millis (s : Span) : Nat := s.nanos / nanosPerMilli

def secs (s : Span) : Nat := s.nanos / nanosPerSec

def subsecNanos (s : Span) : Nat := s.nanos % nanosPerSec

/-- The span in seconds as a float: the whole seconds and the fraction are each rounded to a
float, then added. -/
def secsFloat (s : Span) : Float :=
  (UInt64.ofNat s.secs).toFloat + (UInt64.ofNat s.subsecNanos).toFloat / 1e9

/-- The span in milliseconds as a float, from the float of seconds. -/
def millisFloat (s : Span) : Float := s.secsFloat * 1000.0

end Span

end OsdpTrace
