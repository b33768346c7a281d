import OsdpTrace.Json.Decoder.Basic

/-!
Reading the body of a JSON string, after its opening quote. Escapes are decoded; a `\u`
escape of a leading surrogate must be followed by an escaped trailing one. Control characters
may not stand in a string. The same rules, without keeping the text, skip a string.
-/
namespace OsdpTrace.Json

def utf8Octets (cp : Nat) : List UInt8 :=
  if cp < 0x80 then [cp.toUInt8]
  else if cp < 0x800 then [(0xC0 + cp / 64).toUInt8, (0x80 + cp % 64).toUInt8]
  else if cp < 0x10000 then
    [(0xE0 + cp / 4096).toUInt8, (0x80 + cp / 64 % 64).toUInt8, (0x80 + cp % 64).toUInt8]
  else
    [(0xF0 + cp / 262144).toUInt8, (0x80 + cp / 4096 % 64).toUInt8,
      (0x80 + cp / 64 % 64).toUInt8, (0x80 + cp % 64).toUInt8]

def hexValue? (b : UInt8) : Option Nat :=
  if 0x30 ≤ b ∧ b ≤ 0x39 then some (b.toNat - 0x30)
  else if 0x41 ≤ b ∧ b ≤ 0x46 then some (b.toNat - 0x37)
  else if 0x61 ≤ b ∧ b ≤ 0x66 then some (b.toNat - 0x57)
  else none

def shortEscape? (b : UInt8) : Option UInt8 :=
  match b with
  | 0x22 => some 0x22
  | 0x5C => some 0x5C
  | 0x2F => some 0x2F
  | 0x62 => some 0x08
  | 0x66 => some 0x0C
  | 0x6E => some 0x0A
  | 0x72 => some 0x0D
  | 0x74 => some 0x09
  | _ => none

namespace Decode

def errorIn {α : Type} (bytes : ByteArray) (problem : Problem) (i : Nat) : Except Fault α :=
  .error (.located ⟨problem, some (positionAt bytes i)⟩)

def hexQuad (bytes : ByteArray) (i : Nat) : Except Fault (Nat × Nat) :=
  if i + 4 ≤ bytes.size then
    let digits := (List.range 4).map fun k => bytes[i + k]?.bind hexValue?
    match digits with
    | [some a, some b, some c, some d] => .ok (((a * 16 + b) * 16 + c) * 16 + d, i + 4)
    | _ => errorIn bytes .invalidEscape (i + 4)
  else errorIn bytes .eofWhileParsingString bytes.size

/-- After a `\u` escape of a leading surrogate `lead` ending at `i`: the escaped trailing
surrogate, giving the code point and the index after it. -/
def trailingSurrogate (bytes : ByteArray) (lead i : Nat) : Except Fault (Nat × Nat) :=
  match bytes[i]? with
  | none => errorIn bytes .eofWhileParsingString bytes.size
  | some b =>
    if b != 0x5C then errorIn bytes .unexpectedEndOfHexEscape (i + 1)
    else match bytes[i + 1]? with
      | none => errorIn bytes .eofWhileParsingString bytes.size
      | some u =>
        if u != 0x75 then errorIn bytes .unexpectedEndOfHexEscape (i + 2)
        else do
          let (trail, j) ← hexQuad bytes (i + 2)
          if 0xDC00 ≤ trail ∧ trail ≤ 0xDFFF then
            .ok ((lead - 0xD800) * 1024 + (trail - 0xDC00) + 0x10000, j)
          else errorIn bytes .loneLeadingSurrogateInHexEscape j

def unicodeEscape (bytes : ByteArray) (i : Nat) : Except Fault (Nat × Nat) := do
  let (n, j) ← hexQuad bytes i
  if 0xDC00 ≤ n ∧ n ≤ 0xDFFF then errorIn bytes .loneLeadingSurrogateInHexEscape j
  else if n < 0xD800 ∨ 0xDBFF < n then .ok (n, j)
  else trailingSurrogate bytes n j

/-- The octets of a string body from `i`, and the index after the closing quote. `fuel`
bounds the number of steps; each step moves past at least one octet. -/
def stringBody (bytes : ByteArray) : Nat → Nat → Array UInt8 → Except Fault (Array UInt8 × Nat)
  | 0, _, _ => errorIn bytes .eofWhileParsingString bytes.size
  | fuel + 1, i, acc =>
    match bytes[i]? with
    | none => errorIn bytes .eofWhileParsingString bytes.size
    | some c =>
      if c == 0x22 then .ok (acc, i + 1)
      else if c == 0x5C then
        match bytes[i + 1]? with
        | none => errorIn bytes .eofWhileParsingString bytes.size
        | some e =>
          if e == 0x75 then do
            let (cp, j) ← unicodeEscape bytes (i + 2)
            stringBody bytes fuel j (acc ++ (utf8Octets cp).toArray)
          else match shortEscape? e with
            | some o => stringBody bytes fuel (i + 2) (acc.push o)
            | none => errorIn bytes .invalidEscape (i + 2)
      else if c < 0x20 then errorIn bytes .controlCharacterWhileParsingString (i + 1)
      else stringBody bytes fuel (i + 1) (acc.push c)

def skipStringBody (bytes : ByteArray) : Nat → Nat → Except Fault Nat
  | 0, _ => errorIn bytes .eofWhileParsingString bytes.size
  | fuel + 1, i =>
    match bytes[i]? with
    | none => errorIn bytes .eofWhileParsingString bytes.size
    | some c =>
      if c == 0x22 then .ok (i + 1)
      else if c == 0x5C then
        match bytes[i + 1]? with
        | none => errorIn bytes .eofWhileParsingString bytes.size
        | some e =>
          if e == 0x75 then do
            let (_, j) ← hexQuad bytes (i + 2)
            skipStringBody bytes fuel j
          else if (shortEscape? e).isSome then skipStringBody bytes fuel (i + 2)
          else errorIn bytes .invalidEscape (i + 2)
      else if c < 0x20 then errorIn bytes .controlCharacterWhileParsingString i
      else skipStringBody bytes fuel (i + 1)

def lift {α : Type} (step : ByteArray → Nat → Except Fault (α × Nat)) : Decode α := do
  let bytes ← read
  let i ← get
  match step bytes i with
  | .ok (a, j) => set j; pure a
  | .error f => throw f

/-- Reads a string whose opening quote has been passed. -/
def stringAfterQuote : Decode String :=
  lift fun bytes i => do
    let (octets, j) ← stringBody bytes (bytes.size + 1) i #[]
    .ok ((String.fromUTF8? ⟨octets⟩).getD "", j)

def skipStringAfterQuote : Decode Unit :=
  lift fun bytes i => do
    let j ← skipStringBody bytes (bytes.size + 1) i
    .ok ((), j)

end Decode

end OsdpTrace.Json
