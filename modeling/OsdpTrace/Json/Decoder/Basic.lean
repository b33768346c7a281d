import OsdpTrace.Json.Error

/-!
The reading monad for JSON text. The text is a fixed array of UTF-8 octets and reading moves
an index forward. A failure is either final, with its position, or a problem raised by the
reader of one value, whose position the enclosing reader fixes: the index where the value's
reader stopped.
-/
namespace OsdpTrace.Json

/-- How a reading step fails: with a final error, or with a problem a value's reader found, kept
with the index where it was found until the enclosing reader places it. -/
inductive Fault where
  | located (error : Error)
  | pending (problem : Problem) (index : Nat)

/-- Reading from a fixed array of octets, moving an index. -/
abbrev Decode := ReaderT ByteArray (StateT Nat (Except Fault))

/-- The line and column of an index: lines count the newlines before it, and the column is
the number of octets since the last one. -/
def positionAt (bytes : ByteArray) (i : Nat) : Position :=
  let step := fun (acc : Nat × Nat × Nat) (b : UInt8) =>
    if b == 10 then (acc.1 + 1, acc.2.2 + 1, acc.2.2 + 1) else (acc.1, acc.2.1, acc.2.2 + 1)
  let (newlines, lineStart, _) := (bytes.toList.take i).foldl step (0, 0, 0)
  ⟨newlines + 1, i - lineStart⟩

def isBlank (b : UInt8) : Bool := b == 0x20 || b == 0x0A || b == 0x09 || b == 0x0D

def blankEnd (bytes : ByteArray) (i : Nat) : Nat :=
  if h : i < bytes.size then
    if isBlank bytes[i] then blankEnd bytes (i + 1) else i
  else i
termination_by bytes.size - i

namespace Decode

def peek : Decode (Option UInt8) := do
  return (← read)[← get]?

def peekOrNull : Decode UInt8 := do
  return (← peek).getD 0

def eat : Decode Unit := modify (· + 1)

def next : Decode (Option UInt8) := do
  let c ← peek
  if c.isSome then eat
  return c

def nextOrNull : Decode UInt8 := do
  return (← next).getD 0

def failAt {α : Type} (problem : Problem) (i : Nat) : Decode α := do
  throw (.located ⟨problem, some (positionAt (← read) i)⟩)

def fail {α : Type} (problem : Problem) : Decode α := do
  failAt problem (← get)

def failPeek {α : Type} (problem : Problem) : Decode α := do
  failAt problem (min (← read).size ((← get) + 1))

def reject {α : Type} (problem : Problem) : Decode α := do
  throw (.pending problem (← get))

/-- Gives a rejection raised inside `x` the position of the index where it was raised. -/
def fixed {α : Type} (x : Decode α) : Decode α :=
  tryCatch x fun
    | .pending problem i => failAt problem i
    | fault => throw fault

def skipBlanks : Decode (Option UInt8) := do
  let bytes ← read
  modify (blankEnd bytes)
  peek

def ident : List UInt8 → Decode Unit
  | [] => pure ()
  | c :: rest => do
    match ← next with
    | none => fail .eofWhileParsingValue
    | some d => if d == c then ident rest else fail .expectedSomeIdent

def run {α : Type} (d : Decode α) (text : String) : Except Error α :=
  let bytes := text.toUTF8
  let whole : Decode α := do
    let a ← fixed d
    match ← skipBlanks with
    | some _ => failPeek .trailingCharacters
    | none => pure a
  match StateT.run (ReaderT.run whole bytes) 0 with
  | .ok (a, _) => .ok a
  | .error (.located e) => .error e
  | .error (.pending p i) => .error ⟨p, some (positionAt bytes i)⟩

end Decode

end OsdpTrace.Json
