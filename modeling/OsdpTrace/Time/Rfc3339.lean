import OsdpTrace.Time.Instant
import OsdpTrace.Text.Unicode

/-!
Reading instants from RFC 3339 text, `YYYY-MM-DDTHH:MM:SS[.fraction]` and an offset (`Z` or
`±HH:MM`). The strict reader takes exactly that, with four-digit years, a separator `T`, `t` or
blank, and offsets below 24 hours. The lenient reader also takes signed years of any length,
white space around the fields, `UTC` as an offset, and blanks between the offset's hours and
minutes. Fractions have at most nine digits that count; later digits are skipped. A second of
60 is read as the last second of its minute running into the next.
-/
namespace OsdpTrace.Time

inductive ParseError where
  | outOfRange
  | impossible
  | notEnough
  | invalid
  | tooShort
  | tooLong
deriving DecidableEq, Repr

def ParseError.message : ParseError → String
  | .outOfRange => "input is out of range"
  | .impossible => "no possible date and time matching input"
  | .notEnough => "input is not enough for unique date and time"
  | .invalid => "input contains invalid characters"
  | .tooShort => "premature end of input"
  | .tooLong => "trailing input"

def utf8Length (s : List Char) : Nat := (s.map Char.utf8Size).foldr (· + ·) 0

def maxI64 : Int := Int.pow 2 63 - 1

def digitsFrom (min max : Nat) : Nat → Int → List Char → Except ParseError (Int × List Char)
  | _, n, [] => .ok (n, [])
  | taken, n, c :: rest =>
    if taken = max then .ok (n, c :: rest)
    else if c.isDigit then
      let n' := n * 10 + (c.toNat - '0'.toNat)
      if n' > maxI64 then .error .outOfRange else digitsFrom min max (taken + 1) n' rest
    else if taken < min then .error .invalid
    else .ok (n, c :: rest)

def number (s : List Char) (min max : Nat) : Except ParseError (Int × List Char) :=
  if utf8Length s < min then .error .tooShort else digitsFrom min max 0 0 s

def expect (c : Char) : List Char → Except ParseError (List Char)
  | [] => .error .tooShort
  | d :: rest => if d = c then .ok rest else .error .invalid

def fraction (s : List Char) : Except ParseError (Int × List Char) := do
  let (v, rest) ← number s 1 9
  let taken := s.length - rest.length
  return (v * Int.pow 10 (9 - taken), rest.dropWhile Char.isDigit)

/-- The first two characters, when the text has at least two octets; a lone character of two
or more octets stands for a non-digit pair. -/
def twoDigits (s : List Char) : Except ParseError (Option (Nat × Nat)) :=
  if utf8Length s < 2 then .error .tooShort
  else match s with
    | a :: b :: _ =>
      if a.isDigit ∧ b.isDigit then .ok (some (a.toNat - '0'.toNat, b.toNat - '0'.toNat))
      else .ok none
    | _ => .ok none

/-- Reads an offset from UTC in seconds: `Z`, or a sign (`+`, `-` or the minus sign), two
digits of hours, what `colon` passes, and two digits of minutes below 60. -/
def offset (s : List Char) (colon : List Char → Except ParseError (List Char)) : Except ParseError (Int × List Char) := do
  let (negative, s) ← match s with
    | 'Z' :: rest | 'z' :: rest => return (0, rest)
    | '+' :: rest => pure (false, rest)
    | '-' :: rest => pure (true, rest)
    | '−' :: rest => pure (true, rest)
    | _ :: _ => throw .invalid
    | [] => throw .tooShort
  let hours ← match ← twoDigits s with
    | some (a, b) => pure (a * 10 + b)
    | none => throw .invalid
  let s ← colon (s.drop 2)
  let minutes ← match twoDigits s with
    | .ok (some (a, b)) => if a ≤ 5 then pure (a * 10 + b) else throw .outOfRange
    | .ok none =>
      match s with
      | a :: b :: _ => if '6' ≤ a ∧ a ≤ '9' ∧ b.isDigit then throw .outOfRange else throw .invalid
      | _ => throw .invalid
    | .error _ => throw .tooShort
  let seconds : Int := hours * 3600 + minutes * 60
  return (if negative then -seconds else seconds, s.drop 2)

def inRange (lo hi v : Int) : Except ParseError Unit :=
  if lo ≤ v ∧ v ≤ hi then .ok () else .error .outOfRange

structure Fields where
  year : Int
  month : Nat
  day : Nat
  hour : Nat
  minute : Nat
  second : Nat
  nanosecond : Nat
  offset : Int

/-- The instant the fields name. The date must exist within the years -262143 to 262142, and
the offset must be below a day; second 60 is a leap second. The instant, once moved to UTC, must
lie on the days instants can take, or no instant matches. -/
def Fields.toInstant (f : Fields) : Except ParseError Instant := do
  let date : Date := ⟨f.year, f.month, f.day⟩
  if !date.isValid ∨ f.year < -262143 ∨ f.year > 262142 then throw .outOfRange
  if f.offset.natAbs ≥ 86400 then throw .outOfRange
  let (second, fraction) :=
    if f.second = 60 then (59, f.nanosecond + Instant.nanosPerSecond) else (f.second, f.nanosecond)
  let wall : Int := date.toDays * Instant.secondsPerDay + f.hour * 3600 + f.minute * 60 + second
  match Instant.ofParts? (wall - f.offset) fraction with
  | some t => return t
  | none => throw .impossible

def parseStrict (text : String) : Except ParseError Instant := do
  let (year, s) ← number text.toList 4 4
  let s ← expect '-' s
  let (month, s) ← number s 2 2
  inRange 1 12 month
  let s ← expect '-' s
  let (day, s) ← number s 2 2
  inRange 1 31 day
  let s ← match s with
    | c :: rest => if c = 'T' ∨ c = 't' ∨ c = ' ' then pure rest else throw .invalid
    | [] => throw .tooShort
  let (hour, s) ← number s 2 2
  inRange 0 23 hour
  let s ← expect ':' s
  let (minute, s) ← number s 2 2
  inRange 0 59 minute
  let s ← expect ':' s
  let (second, s) ← number s 2 2
  inRange 0 60 second
  let (nanosecond, s) ← match s with
    | '.' :: rest => fraction rest
    | _ => pure (0, s)
  let (off, s) ← offset s (expect ':')
  if off.natAbs > (23 * 60 + 59) * 60 then throw .outOfRange
  if !s.isEmpty then throw .tooLong
  Fields.toInstant ⟨year, month.toNat, day.toNat, hour.toNat, minute.toNat, second.toNat,
    nanosecond.toNat, off⟩

def trimStart (s : List Char) : List Char := s.dropWhile Text.isBlank

def field (width : Nat) (lo hi : Int) (s : List Char) : Except ParseError (Int × List Char) := do
  let (v, rest) ← number (trimStart s) 1 width
  inRange lo hi v
  return (v, rest)

def literal (c : Char) (s : List Char) : Except ParseError (List Char) :=
  expect c (trimStart s)

def year (s : List Char) : Except ParseError (Int × List Char) := do
  let s := trimStart s
  let (v, rest) ← match s with
    | '-' :: rest => do
      let (v, rest) ← number rest 1 (utf8Length rest + 1)
      pure (-v, rest)
    | '+' :: rest => number rest 1 (utf8Length rest + 1)
    | _ => number s 1 4
  if v < -(Int.pow 2 31) ∨ v ≥ Int.pow 2 31 then throw .outOfRange
  return (v, rest)

def startsWithUtc (s : List Char) : Bool :=
  (s.take 3).map Char.toUpper = ['U', 'T', 'C']

def parseLenient (text : String) : Except ParseError Instant := do
  let (y, s) ← year text.toList
  let s ← literal '-' s
  let (month, s) ← field 2 1 12 s
  let s ← literal '-' s
  let (day, s) ← field 2 1 31 s
  let s ← match s with
    | c :: rest => if c = 'T' ∨ c = 't' ∨ c = ' ' then pure rest else throw .invalid
    | [] => throw .tooShort
  let (hour, s) ← field 2 0 23 s
  let s ← literal ':' s
  let (minute, s) ← field 2 0 59 s
  let s ← literal ':' s
  let (second, s) ← field 2 0 60 s
  let (nanosecond, s) ← match s with
    | '.' :: rest => fraction rest
    | _ => pure (0, s)
  let s := trimStart s
  let (off, s) ←
    if startsWithUtc s then pure (0, s.drop 3)
    else offset s fun r => .ok (r.dropWhile fun c => c = ':' ∨ Text.isBlank c)
  if !(trimStart s).isEmpty then throw .tooLong
  Fields.toInstant ⟨y, month.toNat, day.toNat, hour.toNat, minute.toNat, second.toNat,
    nanosecond.toNat, off⟩

end OsdpTrace.Time
