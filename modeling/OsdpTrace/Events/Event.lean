import OsdpTrace.Events.Feedback
import OsdpTrace.ReaderId
import OsdpTrace.Time.Rfc3339
import OsdpTrace.Time.Text

/-!
Access events read at a reader: a card presented, or a PIN entered. In JSON an event names its
reader by id, and its time in RFC 3339 form (read leniently). Every field is required. When an
event is shown for diagnosis the PIN is masked.
-/
namespace OsdpTrace

open Json

inductive EventKind where
  | cardRead
  | pinRead
deriving DecidableEq, Repr, Inhabited

namespace EventKind

def name : EventKind → String
  | .cardRead => "card_read"
  | .pinRead => "pin_read"

def title : EventKind → String
  | .cardRead => "card read"
  | .pinRead => "PIN read"

end EventKind

/-- A card presented at a reader. -/
structure CardRead where
  readerId : ReaderId
  readerName : String
  cardNumber : String
  bitCount : UInt16
  occurredAt : Instant
deriving DecidableEq, Repr, Inhabited

/-- A PIN entered at a reader. -/
structure PinRead where
  readerId : ReaderId
  readerName : String
  pin : String
  occurredAt : Instant
deriving DecidableEq, Repr, Inhabited

inductive ReadEvent where
  | card (e : CardRead)
  | pin (e : PinRead)
deriving DecidableEq, Repr, Inhabited

namespace ReadEvent

def kind : ReadEvent → EventKind
  | .card _ => .cardRead
  | .pin _ => .pinRead

def readerId : ReadEvent → ReaderId
  | .card e => e.readerId
  | .pin e => e.readerId

def readerName : ReadEvent → String
  | .card e => e.readerName
  | .pin e => e.readerName

def secret : ReadEvent → String
  | .card e => e.cardNumber
  | .pin e => e.pin

def toJson : ReadEvent → Value
  | .card e => .obj [("reader_id", .str e.readerId.toText), ("reader_name", .str e.readerName),
      ("card_number", .str e.cardNumber), ("bit_count", .int e.bitCount.toNat),
      ("occurred_at", .str e.occurredAt.toText)]
  | .pin e => .obj [("reader_id", .str e.readerId.toText), ("reader_name", .str e.readerName),
      ("pin", .str e.pin), ("occurred_at", .str e.occurredAt.toText)]

end ReadEvent

/-- The diagnostic form of a PIN event, with the PIN masked. -/
def PinRead.debugText (e : PinRead) : String :=
  "PinReadEvent \x7b reader_id: ReaderId(" ++ e.readerId.toText ++ "), reader_name: " ++
    Text.quoted e.readerName ++ ", pin: \"****\", occurred_at: " ++ e.occurredAt.toText ++ " \x7d"

namespace Json.Decode

def readerId : Decode ReaderId :=
  stringWith "a formatted UUID string" fun s =>
    match ReaderId.parseUuid s with
    | .ok id => .ok id
    | .error e => .error (.custom ("UUID parsing failed: " ++ e.message))

/-- Reads an instant from a JSON string in RFC 3339 form, leniently. -/
def instant : Decode Instant :=
  stringWith "an RFC 3339 formatted date and time string" fun s =>
    match Time.parseLenient s with
    | .ok t => .ok t
    | .error e => .error (.custom e.message)

end Json.Decode

structure EventFields where
  readerId : Option ReaderId
  readerName : Option String
  secret : Option String
  bitCount : Option UInt16
  occurredAt : Option Instant

def EventFields.empty : EventFields := ⟨none, none, none, none, none⟩

/-- The first missing field, by name, or the value from all fields. -/
def requireAll {α : Type} : List (String × Bool) → Except Problem α → Except Problem α
  | [], result => result
  | (name, present) :: rest, result =>
    if present then requireAll rest result else .error (.missingField name)

namespace CardRead

def readField (i : Nat) (f : EventFields) : Decode EventFields :=
  match i with
  | 0 => do return { f with readerId := some (← Decode.readerId) }
  | 1 => do return { f with readerName := some (← Decode.string) }
  | 2 => do return { f with secret := some (← Decode.string) }
  | 3 => do return { f with bitCount := some (UInt16.ofNat (← Decode.unsigned "u16" 65535)) }
  | _ => do return { f with occurredAt := some (← Decode.instant) }

def complete (f : EventFields) : Except Problem CardRead :=
  match f.readerId, f.readerName, f.secret, f.bitCount, f.occurredAt with
  | some a, some b, some c, some d, some e => .ok ⟨a, b, c, d, e⟩
  | _, _, _, _, _ =>
    requireAll [("reader_id", f.readerId.isSome), ("reader_name", f.readerName.isSome),
      ("card_number", f.secret.isSome), ("bit_count", f.bitCount.isSome),
      ("occurred_at", f.occurredAt.isSome)] (.error (.custom ""))

def reader : Decode.RecordReader EventFields CardRead where
  expecting := "struct CardReadEvent"
  names := ["reader_id", "reader_name", "card_number", "bit_count", "occurred_at"]
  start := .empty
  readField := readField
  complete := fun _ f => complete f
  short := fun n _ => .error (.invalidLength n "struct CardReadEvent with 5 elements")

def ofJsonText (text : String) : Except Json.Error CardRead :=
  Decode.run (Decode.record reader) text

end CardRead

namespace PinRead

def readField (i : Nat) (f : EventFields) : Decode EventFields :=
  match i with
  | 0 => do return { f with readerId := some (← Decode.readerId) }
  | 1 => do return { f with readerName := some (← Decode.string) }
  | 2 => do return { f with secret := some (← Decode.string) }
  | _ => do return { f with occurredAt := some (← Decode.instant) }

def complete (f : EventFields) : Except Problem PinRead :=
  match f.readerId, f.readerName, f.secret, f.occurredAt with
  | some a, some b, some c, some e => .ok ⟨a, b, c, e⟩
  | _, _, _, _ =>
    requireAll [("reader_id", f.readerId.isSome), ("reader_name", f.readerName.isSome),
      ("pin", f.secret.isSome), ("occurred_at", f.occurredAt.isSome)] (.error (.custom ""))

def reader : Decode.RecordReader EventFields PinRead where
  expecting := "struct PinReadEvent"
  names := ["reader_id", "reader_name", "pin", "occurred_at"]
  start := .empty
  readField := readField
  complete := fun _ f => complete f
  short := fun n _ => .error (.invalidLength n "struct PinReadEvent with 4 elements")

def ofJsonText (text : String) : Except Json.Error PinRead :=
  Decode.run (Decode.record reader) text

end PinRead

end OsdpTrace
