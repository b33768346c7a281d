import OsdpTrace.Json.Decoder.Basic

/-!
Reading JSON numbers. An integer without fraction or exponent that fits 64 bits is kept exact:
unsigned if it has no sign, signed if negative. Every other number becomes a float built from
a 64-bit significand and a decimal exponent: the significand is rounded to a float once, then
multiplied or divided by one power of ten (two steps below `1e-308`). Digits beyond what fits
the significand count only toward the exponent.
-/
namespace OsdpTrace.Json

inductive Number where
  | unsigned (n : Nat)
  | signed (n : Int)
  | float (x : Float)

def Number.unexpected : Number → Unexpected
  | .unsigned n => .unsigned n
  | .signed n => .signed n
  | .float x => .float x

def u64Max : Nat := Nat.pow 2 64 - 1

def overflows (n digit limit : Nat) : Bool :=
  n ≥ limit / 10 && (n > limit / 10 || digit > limit % 10)

def digitOf? (b : UInt8) : Option Nat :=
  if 0x30 ≤ b ∧ b ≤ 0x39 then some (b.toNat - 0x30) else none

/-- Powers of ten `1e0` to `1e308`, each the float nearest to it. -/
def powersOfTen : Array Float :=
  (List.range 309).toArray.map fun k => Float.ofScientific 1 false k

def digitsEnd (bytes : ByteArray) (i : Nat) : Nat :=
  if h : i < bytes.size then
    if (digitOf? bytes[i]).isSome then digitsEnd bytes (i + 1) else i
  else i
termination_by bytes.size - i

/-- Digits of an integer part from `i` into a 64-bit significand. Stops before the first
non-digit, or before the first digit that would overflow (then the flag is set). -/
def integerDigits (bytes : ByteArray) (i sig : Nat) : Nat × Nat × Bool :=
  if h : i < bytes.size then
    match digitOf? bytes[i] with
    | some d => if overflows sig d u64Max then (sig, i, true) else integerDigits bytes (i + 1) (sig * 10 + d)
    | none => (sig, i, false)
  else (sig, i, false)
termination_by bytes.size - i

def fractionDigits (bytes : ByteArray) (i sig taken : Nat) : Nat × Nat × Nat × Bool :=
  if h : i < bytes.size then
    match digitOf? bytes[i] with
    | some d =>
      if overflows sig d u64Max then (sig, taken, i, true)
      else fractionDigits bytes (i + 1) (sig * 10 + d) (taken + 1)
    | none => (sig, taken, i, false)
  else (sig, taken, i, false)
termination_by bytes.size - i

/-- Digits of an exponent from `i`, with the value so far; stops at a digit that would exceed
the 32-bit signed range (then the flag is set, and that digit has been passed). -/
def exponentDigits (bytes : ByteArray) (i e : Nat) : Nat × Nat × Bool :=
  if h : i < bytes.size then
    match digitOf? bytes[i] with
    | some d => if overflows e d (Nat.pow 2 31 - 1) then (e, i + 1, true) else exponentDigits bytes (i + 1) (e * 10 + d)
    | none => (e, i, false)
  else (e, i, false)
termination_by bytes.size - i

def clampI32 (n : Int) : Int := max (-(Int.pow 2 31)) (min (Int.pow 2 31 - 1) n)

namespace Decode

/-- Scales a float by `10 ^ exponent`, dividing by `1e308` first while the power is out of
the table; `fuel` bounds those steps (the value reaches zero within three). -/
def scaleByTen (x : Float) (exponent : Int) : Nat → Decode Float
  | 0 => pure x
  | fuel + 1 =>
    match powersOfTen[exponent.natAbs]? with
    | some p =>
      if exponent ≥ 0 then
        let y := x * p
        if y.isInf then fail .numberOutOfRange else pure y
      else pure (x / p)
    | none =>
      if x == 0 then pure x
      else if exponent ≥ 0 then fail .numberOutOfRange
      else scaleByTen (x / 1e308) (exponent + 308) fuel

def floatOfParts (positive : Bool) (significand : Nat) (exponent : Int) : Decode Float := do
  let f ← scaleByTen (UInt64.ofNat significand).toFloat exponent 8
  return if positive then f else -f

def exponentPart (positive : Bool) (significand : Nat) (start : Int) : Decode Float := do
  let positiveExp ← match ← peekOrNull with
    | 0x2B => do eat; pure true
    | 0x2D => do eat; pure false
    | _ => pure true
  match ← next with
  | none => fail .eofWhileParsingValue
  | some c =>
    match digitOf? c with
    | none => fail .invalidNumber
    | some d =>
      let (e, j, overflowed) := exponentDigits (← read) (← get) d
      set j
      if overflowed then
        if significand ≠ 0 ∧ positiveExp then fail .numberOutOfRange
        else do
          set (digitsEnd (← read) j)
          return if positive then 0.0 else -0.0
      else
        let final := clampI32 (if positiveExp then start + e else start - e)
        floatOfParts positive significand final

def fractionPart (positive : Bool) (significand : Nat) (before : Int) : Decode Float := do
  let i ← get
  let (sig, taken, j, overflowed) := fractionDigits (← read) i significand 0
  set j
  let exponent := before - taken
  if overflowed then
    set (digitsEnd (← read) j)
    match ← peekOrNull with
    | 0x65 | 0x45 => do eat; exponentPart positive sig exponent
    | _ => floatOfParts positive sig exponent
  else if taken = 0 then
    match ← peek with
    | some _ => failPeek .invalidNumber
    | none => failPeek .eofWhileParsingValue
  else
    match ← peekOrNull with
    | 0x65 | 0x45 => do eat; exponentPart positive sig exponent
    | _ => floatOfParts positive sig exponent

def numberTail (positive : Bool) (significand : Nat) : Decode Number := do
  match ← peekOrNull with
  | 0x2E => do eat; return .float (← fractionPart positive significand 0)
  | 0x65 | 0x45 => do eat; return .float (← exponentPart positive significand 0)
  | _ =>
    if positive then return .unsigned significand
    else if significand = 0 ∨ significand > Nat.pow 2 63 then
      return .float (-(UInt64.ofNat significand).toFloat)
    else return .signed (-(significand : Int))

/-- Integer digits beyond a full significand: each counts toward the exponent. -/
def longInteger (positive : Bool) (significand : Nat) : Decode Float := do
  let i ← get
  let j := digitsEnd (← read) i
  set j
  let exponent : Int := j - i
  match ← peekOrNull with
  | 0x2E => do eat; fractionPart positive significand exponent
  | 0x65 | 0x45 => do eat; exponentPart positive significand exponent
  | _ => floatOfParts positive significand exponent

def integerPart (positive : Bool) : Decode Number := do
  match ← next with
  | none => fail .eofWhileParsingValue
  | some 0x30 =>
    match digitOf? (← peekOrNull) with
    | some _ => failPeek .invalidNumber
    | none => numberTail positive 0
  | some c =>
    match digitOf? c with
    | none => fail .invalidNumber
    | some d =>
      let (sig, j, overflowed) := integerDigits (← read) (← get) d
      set j
      if overflowed then return .float (← longInteger positive sig) else numberTail positive sig

def skipExponent : Decode Unit := do
  match ← peekOrNull with
  | 0x2B | 0x2D => eat
  | _ => pure ()
  match digitOf? (← nextOrNull) with
  | none => fail .invalidNumber
  | some _ => set (digitsEnd (← read) (← get))

def skipNumber : Decode Unit := do
  match ← nextOrNull with
  | 0x30 =>
    if (digitOf? (← peekOrNull)).isSome then failPeek .invalidNumber
  | c =>
    if (digitOf? c).isSome then set (digitsEnd (← read) (← get))
    else fail .invalidNumber
  match ← peekOrNull with
  | 0x2E =>
    eat
    let i ← get
    let j := digitsEnd (← read) i
    set j
    if j = i then failPeek .invalidNumber
    match ← peekOrNull with
    | 0x65 | 0x45 => do eat; skipExponent
    | _ => pure ()
  | 0x65 | 0x45 => do eat; skipExponent
  | _ => pure ()

end Decode

end OsdpTrace.Json
