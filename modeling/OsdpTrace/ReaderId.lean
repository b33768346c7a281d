import OsdpTrace.Text.Unicode
import OsdpTrace.Failure

/-!
Reader ids are 128-bit UUIDs. They are written as 32 lower-case hexadecimal digits in groups
of 8, 4, 4, 4 and 12 joined by hyphens, and ordered by their value. They are read in four forms:
32 digits alone, the grouped form, the grouped form in braces, and the grouped form after the
prefix `urn:uuid:` in either case. Digits may be of either case.
-/
namespace OsdpTrace

/-- A reader id: a 128-bit value, its first byte the most significant. -/
structure ReaderId where
  bits : Nat
deriving DecidableEq, Repr, Inhabited

namespace ReaderId

instance : Ord ReaderId := ⟨fun a b => compare a.bits b.bits⟩

instance : LT ReaderId := ⟨fun a b => a.bits < b.bits⟩

instance (a b : ReaderId) : Decidable (a < b) := inferInstanceAs (Decidable (a.bits < b.bits))

def hexOctet? (b : UInt8) : Option Nat :=
  if 0x30 ≤ b ∧ b ≤ 0x39 then some (b.toNat - 0x30)
  else if 0x61 ≤ b ∧ b ≤ 0x66 then some (b.toNat - 0x57)
  else if 0x41 ≤ b ∧ b ≤ 0x46 then some (b.toNat - 0x37)
  else none

def hexValue? (digits : List UInt8) : Option Nat :=
  digits.foldlM (fun acc b => (acc * 16 + ·) <$> hexOctet? b) 0

def ungroup? (s : List UInt8) : Option (List UInt8) :=
  if s.length = 36 ∧ [8, 13, 18, 23].all (fun i => s[i]? = some 0x2D) then
    some ((List.range 36).filterMap fun i => if [8, 13, 18, 23].contains i then none else s[i]?)
  else none

def hasUrnPrefix (s : List UInt8) : Bool :=
  let lower := (s.take 9).map fun b => if 0x41 ≤ b ∧ b ≤ 0x5A then b + 0x20 else b
  lower == "urn:uuid:".toUTF8.toList

def digitsOf? (s : List UInt8) : Option (List UInt8) :=
  match s.length with
  | 32 => some s
  | 36 => ungroup? s
  | 38 => if s.head? = some 0x7B ∧ s.getLast? = some 0x7D then ungroup? ((s.drop 1).take 36) else none
  | 45 => if hasUrnPrefix s then ungroup? (s.drop 9) else none
  | _ => none

/-- Why a text is not an id: a character that is neither a digit nor a hyphen, at an octet index;
the wrong length, too long for any form or digits without hyphens that are not 32 of them; not
five groups; or a group of the wrong length. -/
inductive UuidError where
  | char (c : Char) (index : Nat)
  | length (octets : Nat)
  | groupCount (count : Nat)
  | groupLength (group length : Nat)

def groupLengths : List Nat := [8, 4, 4, 4, 12]

def UuidError.message : UuidError → String
  | .char c i => "invalid character: found `" ++ c.toString ++ "` at " ++ toString i
  | .length n => "invalid length: found " ++ toString n
  | .groupCount n => "invalid group count: expected 5, found " ++ toString n
  | .groupLength g n =>
    "invalid group length in group " ++ toString g ++ ": expected " ++
      toString (groupLengths.getD g 0) ++ ", found " ++ toString n

def groupStarts : List Nat := [0, 9, 14, 19, 24]

def withOffsets : List Char → Nat → List (Char × Nat)
  | [], _ => []
  | c :: rest, start => (c, start) :: withOffsets rest (start + c.utf8Size)

def isIdChar (c : Char) : Bool :=
  c = '-' ∨ (c.toNat < 128 ∧ (hexOctet? c.toNat.toUInt8).isSome)

/-- What is wrong with the part of a text that must hold the id, in the order the checks are
made: a bad character (its index counted from `offset`), then the length `total` of a part
without hyphens that stands alone, then the count of groups, then the first group of the wrong
length (the last group taking what `total` leaves after the first four). -/
def examine (part : List Char) (offset : Nat) (alone : Bool) (total : Nat) : UuidError :=
  let positions := withOffsets part 0
  match positions.find? (fun p => !isIdChar p.1) with
  | some (c, i) => .char c (i + offset)
  | none =>
    let hyphens := positions.filterMap fun p => if p.1 = '-' then some p.2 else none
    if hyphens.isEmpty ∧ alone then .length total
    else if hyphens.length ≠ 4 then .groupCount (hyphens.length + 1)
    else
      match (List.range 4).find? (fun g => hyphens.getD g 0 ≠ groupStarts.getD (g + 1) 0 - 1) with
      | some g => .groupLength g (hyphens.getD g 0 - groupStarts.getD g 0)
      | none => .groupLength 4 (total - 24)

/-- Why a text that is not an id fails. A text longer than the longest form fails by its
length. A text of the grouped form's lengths is examined as grouped: 36 octets whole, 38 octets
in braces and 45 octets after the prefix without them, with indices counted in the part
examined. Any other text is examined without its braces or prefix, with indices counted in the
whole text, and when it stands alone without hyphens it fails by its length. -/
def diagnose (s : String) : UuidError :=
  let octets := s.toUTF8.toList
  let length := octets.length
  let chars := s.toList
  let braced := chars.length ≥ 2 ∧ chars.head? = some '{' ∧ chars.getLast? = some '}'
  let urn := hasUrnPrefix octets
  let unwrapped := if braced then (chars.drop 1).dropLast else if urn then chars.drop 9 else chars
  if length > 45 then .length length
  else if length = 36 then examine chars 0 false 36
  else if (length = 38 ∧ braced) ∨ (length = 45 ∧ urn) then examine unwrapped 0 false 36
  else examine unwrapped (if braced then 1 else if urn then 9 else 0) (!braced ∧ !urn) length

def parseUuid (s : String) : Except UuidError ReaderId :=
  match (digitsOf? s.toUTF8.toList).bind hexValue? with
  | some v => .ok ⟨v⟩
  | none => .error (diagnose s)

/-- Reads a reader id, ignoring white space around it. -/
def parse (s : String) : Except Failure ReaderId :=
  match parseUuid (Text.trimBlank s) with
  | .ok id => .ok id
  | .error _ => .error (.invalidReaderId s)

def lowerHex (n : Nat) : Char := "0123456789abcdef".toList.getD n '0'

def hexDigits (id : ReaderId) : String :=
  String.ofList ((List.range 32).reverse.map fun k => lowerHex (id.bits / Nat.pow 16 k % 16))

def toText (id : ReaderId) : String :=
  let d := id.hexDigits
  "-".intercalate [(d.take 8).toString, ((d.drop 8).take 4).toString, ((d.drop 12).take 4).toString,
    ((d.drop 16).take 4).toString, (d.drop 20).toString]

instance : ToString ReaderId := ⟨toText⟩

def version (id : ReaderId) : Nat := id.bits / Nat.pow 2 76 % 16

/-- A random id of version 4 from 128 random bits: the version is set to 4, and the top two
bits of the ninth byte to the variant `10`. -/
def ofRandom (r : Nat) : ReaderId :=
  let b := r % Nat.pow 2 128
  let b := b - b / Nat.pow 2 76 % 16 * Nat.pow 2 76 + 4 * Nat.pow 2 76
  ⟨b - b / Nat.pow 2 62 % 4 * Nat.pow 2 62 + 2 * Nat.pow 2 62⟩

end ReaderId

end OsdpTrace
