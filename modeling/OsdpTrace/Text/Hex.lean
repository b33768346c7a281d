import OsdpTrace.Text.Unicode

/-!
Bytes written as hexadecimal text. When read, white space anywhere is ignored and digits of
either case are accepted, two to a byte. When written, each byte is two upper-case digits and
bytes are separated by single blanks.
-/
namespace OsdpTrace.Text

def hexDigitValue? (c : Char) : Option Nat :=
  if '0' ≤ c ∧ c ≤ '9' then some (c.toNat - '0'.toNat)
  else if 'a' ≤ c ∧ c ≤ 'f' then some (c.toNat - 'a'.toNat + 10)
  else if 'A' ≤ c ∧ c ≤ 'F' then some (c.toNat - 'A'.toNat + 10)
  else none

inductive HexError where
  | oddLength
  | badDigit (c : Char)

def HexError.message : HexError → String
  | .oddLength => "hex string has odd length"
  | .badDigit c => "invalid hex digit " ++ c.toString

def bytesOfDigits : List Char → Except HexError (List UInt8)
  | [] => .ok []
  | [_] => .error .oddLength
  | a :: b :: rest =>
    match hexDigitValue? a, hexDigitValue? b with
    | some x, some y => do return (x * 16 + y).toUInt8 :: (← bytesOfDigits rest)
    | none, _ => .error (.badDigit a)
    | _, none => .error (.badDigit b)

/-- Reads bytes from hexadecimal text, ignoring white space. An odd number of digits is refused
before any digit is looked at. -/
def bytesOfHex (s : String) : Except HexError (List UInt8) := do
  let digits := s.toList.filter (fun c => !isBlank c)
  if digits.length % 2 = 1 then throw .oddLength
  bytesOfDigits digits

def hexPair (b : UInt8) : String :=
  let digit := fun (n : Nat) => "0123456789ABCDEF".toList.getD n '0'
  String.ofList [digit (b.toNat / 16), digit (b.toNat % 16)]

/-- Bytes as upper-case digit pairs separated by single blanks; empty bytes give "". -/
def hexOfBytes (bytes : List UInt8) : String :=
  " ".intercalate (bytes.map hexPair)

end OsdpTrace.Text
