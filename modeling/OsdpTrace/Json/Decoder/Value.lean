import OsdpTrace.Json.Decoder.Text
import OsdpTrace.Json.Decoder.Number

/-!
Skipping a JSON value of any shape, checking its form, and reading one into a `Value`. Arrays
and objects nest at most 127 deep when read. A key given twice keeps its last value, in the
place of its first.
-/
namespace OsdpTrace.Json

def setMember (members : List (String × Value)) (key : String) (v : Value) :
    List (String × Value) :=
  if members.any (·.1 == key) then members.map fun m => if m.1 == key then (key, v) else m
  else members ++ [(key, v)]

def Number.toValue : Number → Value
  | .unsigned n => .int n
  | .signed n => .int n
  | .float x => .float x

namespace Decode

def isDigit (b : UInt8) : Bool := 0x30 ≤ b && b ≤ 0x39

mutual
def skipValue : Nat → Decode Unit
  | 0 => failPeek .eofWhileParsingValue
  | fuel + 1 => do
    match ← skipBlanks with
    | none => failPeek .eofWhileParsingValue
    | some 0x6E => do eat; ident [0x75, 0x6C, 0x6C]
    | some 0x74 => do eat; ident [0x72, 0x75, 0x65]
    | some 0x66 => do eat; ident [0x61, 0x6C, 0x73, 0x65]
    | some 0x2D => do eat; skipNumber
    | some 0x22 => do eat; skipStringAfterQuote
    | some 0x5B => do eat; skipElements fuel true
    | some 0x7B => do eat; skipMembers fuel true
    | some c => if isDigit c then skipNumber else failPeek .expectedSomeValue

def skipElements : Nat → Bool → Decode Unit
  | 0, _ => failPeek .eofWhileParsingList
  | fuel + 1, first => do
    match ← skipBlanks with
    | none => failPeek .eofWhileParsingList
    | some 0x5D => eat
    | some 0x2C =>
      if first then do skipValue fuel; skipElements fuel false
      else do eat; skipValue fuel; skipElements fuel false
    | some _ =>
      if first then do skipValue fuel; skipElements fuel false
      else failPeek .expectedListCommaOrEnd

def skipMembers : Nat → Bool → Decode Unit
  | 0, _ => failPeek .eofWhileParsingObject
  | fuel + 1, first => do
    match ← skipBlanks with
    | none => failPeek .eofWhileParsingObject
    | some 0x7D => eat
    | some c =>
      if c == 0x2C && !first then eat
      else if !first then failPeek .expectedObjectCommaOrEnd
      match ← skipBlanks with
      | some 0x22 => do eat; skipStringAfterQuote
      | some _ => failPeek .keyMustBeAString
      | none => failPeek .eofWhileParsingObject
      match ← skipBlanks with
      | some 0x3A => eat
      | some _ => failPeek .expectedColon
      | none => failPeek .eofWhileParsingObject
      skipValue fuel
      skipMembers fuel false
end

def hasElement (first : Bool) : Decode Bool := do
  match ← skipBlanks with
  | none => failPeek .eofWhileParsingList
  | some 0x5D => pure false
  | some 0x2C =>
    if first then pure true
    else do
      eat
      match ← skipBlanks with
      | some 0x5D => failPeek .trailingComma
      | some _ => pure true
      | none => failPeek .eofWhileParsingValue
  | some _ => if first then pure true else failPeek .expectedListCommaOrEnd

def nextKey (first : Bool) : Decode (Option String) := do
  let c ← skipBlanks
  if c == some 0x7D then return none
  let c ←
    if c == some 0x2C && !first then do eat; skipBlanks
    else if c.isNone then failPeek .eofWhileParsingObject
    else if !first then failPeek .expectedObjectCommaOrEnd
    else pure c
  match c with
  | some 0x22 => do eat; some <$> stringAfterQuote
  | some 0x7D => failPeek .trailingComma
  | some _ => failPeek .keyMustBeAString
  | none => failPeek .eofWhileParsingValue

def colon : Decode Unit := do
  match ← skipBlanks with
  | some 0x3A => eat
  | some _ => failPeek .expectedColon
  | none => failPeek .eofWhileParsingObject

def closeArray : Decode Unit := do
  match ← skipBlanks with
  | some 0x5D => eat
  | some 0x2C => do
    eat
    match ← skipBlanks with
    | some 0x5D => failPeek .trailingComma
    | _ => failPeek .trailingCharacters
  | some _ => failPeek .trailingCharacters
  | none => failPeek .eofWhileParsingList

def closeObject : Decode Unit := do
  match ← skipBlanks with
  | some 0x7D => eat
  | some 0x2C => failPeek .trailingComma
  | some _ => failPeek .trailingCharacters
  | none => failPeek .eofWhileParsingObject

/-- Where the closing of an array leaves the index when it fails: past white space, and past a
closing bracket or a comma and the white space after it. -/
def closeArrayMoves : Decode Unit := do
  match ← skipBlanks with
  | some 0x5D => eat
  | some 0x2C => do eat; discard skipBlanks
  | _ => pure ()

def closeObjectMoves : Decode Unit := do
  match ← skipBlanks with
  | some 0x7D => eat
  | _ => pure ()

/-- Runs the reader of a container's contents, then its closing. If the contents' reader
rejected them, the closing still moves the index, and the rejection takes its position
there. -/
def closedBy {α : Type} (close moves : Decode Unit) (contents : Decode α) : Decode α :=
  tryCatch (do let a ← contents; close; pure a) fun
    | .pending problem i => do set i; moves; fail problem
    | fault => throw fault

mutual
/-- Reads a value. `depth` is the nesting still allowed; `fuel` bounds the steps. -/
def anyValue (depth : Nat) : Nat → Decode Value
  | 0 => failPeek .eofWhileParsingValue
  | fuel + 1 => fixed do
    match ← skipBlanks with
    | none => failPeek .eofWhileParsingValue
    | some 0x6E => do eat; ident [0x75, 0x6C, 0x6C]; pure .null
    | some 0x74 => do eat; ident [0x72, 0x75, 0x65]; pure (.bool true)
    | some 0x66 => do eat; ident [0x61, 0x6C, 0x73, 0x65]; pure (.bool false)
    | some 0x2D => do eat; return (← integerPart false).toValue
    | some 0x22 => do eat; return .str (← stringAfterQuote)
    | some 0x5B =>
      if depth ≤ 1 then failPeek .recursionLimitExceeded
      else do
        eat
        closedBy closeArray closeArrayMoves (.arr <$> elements (depth - 1) fuel true [])
    | some 0x7B =>
      if depth ≤ 1 then failPeek .recursionLimitExceeded
      else do
        eat
        closedBy closeObject closeObjectMoves (.obj <$> members (depth - 1) fuel true [])
    | some c =>
      if isDigit c then return (← integerPart true).toValue else failPeek .expectedSomeValue

def elements (depth : Nat) : Nat → Bool → List Value → Decode (List Value)
  | 0, _, acc => pure acc
  | fuel + 1, first, acc => do
    if ← hasElement first then
      let v ← anyValue depth fuel
      elements depth fuel false (acc ++ [v])
    else pure acc

def members (depth : Nat) : Nat → Bool → List (String × Value) → Decode (List (String × Value))
  | 0, _, acc => pure acc
  | fuel + 1, first, acc => do
    match ← nextKey first with
    | none => pure acc
    | some key =>
      colon
      let v ← anyValue depth fuel
      members depth fuel false (setMember acc key v)
end

/-- Steps enough for any text: along a chain of calls, every second call has passed an octet. -/
def fuelFor (bytes : ByteArray) : Nat := 2 * bytes.size + 2

/-- Reads one value, nested at most 127 deep. -/
def value : Decode Value := do
  anyValue 128 (fuelFor (← read))

def skip : Decode Unit := do
  skipValue (fuelFor (← read))

end Decode

def Value.parse (text : String) : Except Error Value :=
  Decode.run Decode.value text

end OsdpTrace.Json
