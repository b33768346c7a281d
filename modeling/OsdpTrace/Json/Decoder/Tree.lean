import OsdpTrace.Json.Decoder.Typed

/-!
Readers of typed values from a JSON value that is already read, rather than from text: bounded
unsigned integers, strings, optional values and records. Errors carry no position. An object's
members are taken in the order of their keys, as a map sorted by key holds them; an array gives
a record's fields by position, and must not hold more items than the record has fields.
-/
namespace OsdpTrace.Json

namespace Value

def toUnsigned (expected : String) (max : Nat) : Value → Except Problem Nat
  | .int n =>
    if n < 0 then .error (.invalidValue (.signed n) expected)
    else if n.toNat > max then .error (.invalidValue (.unsigned n.toNat) expected)
    else .ok n.toNat
  | v => .error (.invalidType v.unexpected expected)

def toText : Value → Except Problem String
  | .str s => .ok s
  | v => .error (.invalidType v.unexpected "a string")

def toOptional {α : Type} (read : Value → Except Problem α) : Value → Except Problem (Option α)
  | .null => .ok none
  | v => some <$> read v

def sortMembers (members : List (String × Value)) : List (String × Value) :=
  members.mergeSort fun a b => decide (a.1 ≤ b.1)

end Value

/-- How a record is read from a JSON value: its name for errors, its field names, the fields
read so far at the start, how a field at a position is read, how the record is made once every
item or member is read, and the error when an array stops before field `n`. -/
structure TreeRecord (α β : Type) where
  expecting : String
  names : List String
  start : α
  readField : Nat → α → Value → Except Problem α
  complete : α → Except Problem β
  short : Nat → Problem

namespace TreeRecord

variable {α β : Type}

def readItems (r : TreeRecord α β) (acc : α) (i : Nat) : Nat → List Value → Except Problem α
  | 0, _ => .ok acc
  | _ + 1, [] => .error (r.short i)
  | fuel + 1, v :: rest => do r.readItems (← r.readField i acc v) (i + 1) fuel rest

/-- Reads a record from a value: an object by the names of its members, unknown names skipped;
an array by position, with no more items than fields. -/
def read (r : TreeRecord α β) : Value → Except Problem β
  | .obj members => do
    let acc ← (Value.sortMembers members).foldlM (fun acc m =>
      match r.names.idxOf? m.1 with
      | some i => r.readField i acc m.2
      | none => pure acc) r.start
    r.complete acc
  | .arr items => do
    let acc ← r.readItems r.start 0 r.names.length items
    if items.length > r.names.length then
      .error (.invalidLength items.length "fewer elements in array")
    else r.complete acc
  | v => .error (.invalidType v.unexpected r.expecting)

end TreeRecord

end OsdpTrace.Json
