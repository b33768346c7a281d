import OsdpTrace.Json.Decoder.Value

/-!
Readers of typed values from JSON text: booleans, bounded unsigned integers, strings, optional
values, names of enumerations, and records with named fields. A reader that finds a value of
another kind reports what it found and what it expected, at the index after what it found.
A record may be written as an object, by field names, or as an array, by field order.
-/
namespace OsdpTrace.Json

namespace Decode

def invalidType {α : Type} (expected : String) : Decode α := do
  match ← peekOrNull with
  | 0x6E => do eat; ident [0x75, 0x6C, 0x6C]; reject (.invalidType .null expected)
  | 0x74 => do eat; ident [0x72, 0x75, 0x65]; reject (.invalidType (.bool true) expected)
  | 0x66 => do eat; ident [0x61, 0x6C, 0x73, 0x65]; reject (.invalidType (.bool false) expected)
  | 0x2D => do eat; reject (.invalidType (← integerPart false).unexpected expected)
  | 0x22 => do eat; reject (.invalidType (.str (← stringAfterQuote)) expected)
  | 0x5B => reject (.invalidType .seq expected)
  | 0x7B => reject (.invalidType .map expected)
  | c =>
    if isDigit c then reject (.invalidType (← integerPart true).unexpected expected)
    else failPeek .expectedSomeValue

def bool : Decode Bool := fixed do
  match ← skipBlanks with
  | none => failPeek .eofWhileParsingValue
  | some 0x74 => do eat; ident [0x72, 0x75, 0x65]; pure true
  | some 0x66 => do eat; ident [0x61, 0x6C, 0x73, 0x65]; pure false
  | some _ => invalidType "a boolean"

def unsignedOf (expected : String) (max : Nat) : Number → Decode Nat
  | .unsigned n => if n ≤ max then pure n else reject (.invalidValue (.unsigned n) expected)
  | .signed n => reject (.invalidValue (.signed n) expected)
  | .float x => reject (.invalidType (.float x) expected)

def unsigned (expected : String) (max : Nat) : Decode Nat := fixed do
  match ← skipBlanks with
  | none => failPeek .eofWhileParsingValue
  | some 0x2D => do eat; unsignedOf expected max (← integerPart false)
  | some c =>
    if isDigit c then do unsignedOf expected max (← integerPart true)
    else invalidType expected

def stringWith {α : Type} (expected : String) (visit : String → Except Problem α) : Decode α :=
  fixed do
    match ← skipBlanks with
    | none => failPeek .eofWhileParsingValue
    | some 0x22 => do
      eat
      match visit (← stringAfterQuote) with
      | .ok a => pure a
      | .error p => reject p
    | some _ => invalidType expected

def string : Decode String := stringWith "a string" .ok

def option {α : Type} (d : Decode α) : Decode (Option α) := do
  match ← skipBlanks with
  | some 0x6E => do eat; ident [0x75, 0x6C, 0x6C]; pure none
  | _ => some <$> d

def unit : Decode Unit := fixed do
  match ← skipBlanks with
  | none => failPeek .eofWhileParsingValue
  | some 0x6E => do eat; ident [0x75, 0x6C, 0x6C]
  | some _ => invalidType "unit"

def variantIndex (variants : List String) (name : String) : Except Problem Nat :=
  match variants.idxOf? name with
  | some i => .ok i
  | none => .error (.unknownVariant name variants)

/-- Reads the name of a variant without data: a string, or an object with the name as its one
key, which must be a string (an object with no key lacks a value), and `null` as its value.
Gives the variant's position. -/
def variant (variants : List String) : Decode Nat := do
  match ← skipBlanks with
  | some 0x22 => stringWith "variant identifier" (variantIndex variants)
  | some 0x7B => do
    eat
    let i ← match ← skipBlanks with
      | some 0x22 => stringWith "variant identifier" (variantIndex variants)
      | some 0x7D => failPeek .expectedSomeValue
      | some _ => failPeek .keyMustBeAString
      | none => failPeek .eofWhileParsingValue
    colon
    unit
    match ← skipBlanks with
    | some 0x7D => do eat; pure i
    | some _ => fail .expectedSomeValue
    | none => fail .eofWhileParsingObject
  | some _ => failPeek .expectedSomeValue
  | none => failPeek .eofWhileParsingValue

/-- How a record is read. Fields are read into an accumulator in the order they come, each by its
position among `names` (declaration order). After an object, `complete` gives the record from the
accumulator and the positions of the fields seen; after an array of `n` elements, `short n` says
what `n` fewer elements than fields give. `expecting` names the record in errors, as
`struct Name`. -/
structure RecordReader (α β : Type) where
  expecting : String
  names : List String
  start : α
  readField : Nat → α → Decode α
  complete : List Nat → α → Except Problem β
  short : Nat → α → Except Problem β

def finishWith {β : Type} : Except Problem β → Decode β
  | .ok b => pure b
  | .error p => reject p

def recordMembers {α β : Type} (r : RecordReader α β) :
    Nat → Bool → List Nat → α → Decode β
  | 0, _, seen, acc => finishWith (r.complete seen acc)
  | fuel + 1, first, seen, acc => do
    match ← nextKey first with
    | none => finishWith (r.complete seen acc)
    | some key =>
      match r.names.idxOf? key with
      | some i =>
        if seen.contains i then reject (.duplicateField key)
        else do
          colon
          let acc ← r.readField i acc
          recordMembers r fuel false (i :: seen) acc
      | none => do
        colon
        skip
        recordMembers r fuel false seen acc

def recordElements {α β : Type} (r : RecordReader α β) : List Nat → Bool → α → Decode β
  | [], _, acc => finishWith (r.complete (List.range r.names.length) acc)
  | i :: rest, first, acc => do
    if ← hasElement first then
      let acc ← r.readField i acc
      recordElements r rest false acc
    else finishWith (r.short i acc)

/-- Reads a record written as an object or as an array. -/
def record {α β : Type} (r : RecordReader α β) : Decode β := do
  match ← skipBlanks with
  | none => failPeek .eofWhileParsingValue
  | some 0x5B => do
    eat
    closedBy closeArray closeArrayMoves (recordElements r (List.range r.names.length) true r.start)
  | some 0x7B => do
    eat
    closedBy closeObject closeObjectMoves (recordMembers r (fuelFor (← read)) true [] r.start)
  | some _ => fixed (invalidType r.expecting)

end Decode

end OsdpTrace.Json
