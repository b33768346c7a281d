import OsdpTrace.Time.Instant

/-!
Instants as text. The interchange form is `YYYY-MM-DDTHH:MM:SS` followed by a fraction of 3, 6
or 9 digits (the fewest that are exact, none for a whole second) and `Z`. The report form is
`YYYY-MM-DD HH:MM:SS.mmm UTC`, with the milliseconds rounded down. A leap second is written as
second 60. Years from 0 to 9999 have
four digits; other years carry their sign and at least four digits.
-/
namespace OsdpTrace

def zeroPad (width n : Nat) : String :=
  let digits := toString n
  String.ofList (List.replicate (width - digits.length) '0') ++ digits

namespace Instant

/-- The year as written: four digits, or a sign and at least four digits outside 0 to 9999. -/
def yearText (y : Int) : String :=
  if 0 ≤ y ∧ y ≤ 9999 then zeroPad 4 y.toNat
  else (if y < 0 then "-" else "+") ++ zeroPad 4 y.natAbs

def wholeSeconds (t : Instant) (separator : String) : String :=
  let d := t.date
  let s := t.secondOfDay
  let leap := if t.isLeap then 1 else 0
  yearText d.year ++ "-" ++ zeroPad 2 d.month ++ "-" ++ zeroPad 2 d.day ++ separator ++
    zeroPad 2 (s / 3600) ++ ":" ++ zeroPad 2 (s / 60 % 60) ++ ":" ++ zeroPad 2 (s % 60 + leap)

/-- The fraction of a second: none for zero, else 3, 6 or 9 digits, the fewest that are exact. -/
def fractionText (nanos : Nat) : String :=
  if nanos = 0 then ""
  else if nanos % 1000000 = 0 then "." ++ zeroPad 3 (nanos / 1000000)
  else if nanos % 1000 = 0 then "." ++ zeroPad 6 (nanos / 1000)
  else "." ++ zeroPad 9 nanos

def toText (t : Instant) : String :=
  t.wholeSeconds "T" ++ fractionText (t.fraction % nanosPerSecond) ++ "Z"

def reportText (t : Instant) : String :=
  t.wholeSeconds " " ++ "." ++ zeroPad 3 (t.fraction % nanosPerSecond / 1000000) ++ " UTC"

end Instant

end OsdpTrace
