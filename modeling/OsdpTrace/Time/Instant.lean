import OsdpTrace.Time.Civil
import OsdpTrace.Time.Span

/-!
Instants on the UTC time line: the whole second since 1970-01-01T00:00:00Z that an instant
falls in, and the nanoseconds into it. Instants lie on the days from the first of year -262143
to the last of year 262142.

A leap second has no second of its own: it is written `23:59:60`, and held as the second before
it with a billion nanoseconds more, so the nanoseconds pass a billion only inside a leap second,
which follows the last second of a minute. Instants are ordered by second, then by
nanoseconds, so a leap second comes after the second it extends and before the next one.

The span between two instants is counted on the day and on the time of day apart. Within a
day, a leap second at either end counts as a second of its own; across midnight it does not.
A span to subtract from an instant must fit 64-bit signed milliseconds.
-/
namespace OsdpTrace

/-- An instant: the whole second since the epoch, and the nanoseconds into it (past a billion
inside a leap second). -/
structure Instant where
  second : Int
  fraction : Nat
deriving DecidableEq, Repr, Inhabited

namespace Instant

def nanosPerSecond : Nat := 1000000000

def secondsPerDay : Int := 86400

instance : Ord Instant := ⟨fun a b => (compare a.second b.second).then (compare a.fraction b.fraction)⟩

instance : LT Instant := ⟨fun a b => a.second < b.second ∨ (a.second = b.second ∧ a.fraction < b.fraction)⟩

instance : LE Instant := ⟨fun a b => a.second < b.second ∨ (a.second = b.second ∧ a.fraction ≤ b.fraction)⟩

instance (a b : Instant) : Decidable (a < b) :=
  inferInstanceAs (Decidable (a.second < b.second ∨ (a.second = b.second ∧ a.fraction < b.fraction)))

instance (a b : Instant) : Decidable (a ≤ b) :=
  inferInstanceAs (Decidable (a.second < b.second ∨ (a.second = b.second ∧ a.fraction ≤ b.fraction)))

def firstDay : Int := Time.Date.toDays ⟨-262143, 1, 1⟩

def lastDay : Int := Time.Date.toDays ⟨262142, 12, 31⟩

def day (t : Instant) : Int := t.second / secondsPerDay

def secondOfDay (t : Instant) : Nat := (t.second % secondsPerDay).toNat

def inRange (second : Int) : Bool :=
  let d := second / secondsPerDay
  firstDay ≤ d ∧ d ≤ lastDay

def ofParts? (second : Int) (fraction : Nat) : Option Instant :=
  if inRange second then some ⟨second, fraction⟩ else none

def ofNanos? (n : Int) : Option Instant :=
  ofParts? (n / nanosPerSecond) (n % nanosPerSecond).toNat

def ofMillis? (ms : Int) : Option Instant := ofNanos? (ms * 1000000)

def epoch : Instant := ⟨0, 0⟩

def isLeap (t : Instant) : Bool := t.fraction ≥ nanosPerSecond

/-- The signed span between two times of day, in nanoseconds: a leap second at the end that
is the earlier second of the two counts as a second of its own. -/
def timeOfDaySpan (second fraction earlierSecond earlierFraction : Nat) : Int :=
  let seconds : Int := (second : Int) - earlierSecond +
    (if second > earlierSecond ∧ earlierFraction ≥ nanosPerSecond then 1
     else if second < earlierSecond ∧ fraction ≥ nanosPerSecond then -1
     else 0)
  seconds * nanosPerSecond + fraction - earlierFraction

/-- The signed span from `earlier` to `t` in nanoseconds: whole days between their dates, and
the span between their times of day. -/
def spanFrom (t earlier : Instant) : Int :=
  (t.day - earlier.day) * secondsPerDay * nanosPerSecond +
    timeOfDaySpan t.secondOfDay t.fraction earlier.secondOfDay earlier.fraction

def since (t earlier : Instant) : Span := ⟨(t.spanFrom earlier).toNat⟩

/-- The longest span that can be subtracted from an instant: the largest 64-bit signed
number of milliseconds. -/
def maxSpanNanos : Nat := (Nat.pow 2 63 - 1) * 1000000

/-- The instant a span before this one, if the span fits and the result is an instant. From
inside a leap second, a span of a second or more is counted from the second after it, and a
shorter one stays in the second the leap second extends. -/
def subSpan? (t : Instant) (s : Span) : Option Instant :=
  if s.nanos > maxSpanNanos then none
  else
    let whole : Int := s.secs
    let part := s.subsecNanos
    let (second, fraction) :=
      if t.isLeap ∧ whole > 0 then (t.second + 1, (t.fraction : Int) - nanosPerSecond)
      else (t.second, (t.fraction : Int))
    if t.isLeap ∧ whole = 0 then ofParts? t.second (t.fraction - part)
    else
      let second := second - whole
      let fraction := fraction - part
      if fraction < 0 then ofParts? (second - 1) (fraction + nanosPerSecond).toNat
      else ofParts? second fraction.toNat

def date (t : Instant) : Time.Date := Time.Date.ofDays t.day

end Instant

end OsdpTrace
