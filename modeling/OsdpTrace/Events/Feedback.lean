import OsdpTrace.Json.Decoder.Tree
import OsdpTrace.Time.Span

/-!
Feedback shown on a reader after an event: a LED colour, a number of beeps, an optional message
on the display, and how long it lasts. In JSON the duration is whole milliseconds, kept to its
low 64 bits when written.
-/
namespace OsdpTrace

open Json

inductive LedColor where
  | off
  | red
  | green
  | amber
  | blue
  | magenta
  | cyan
  | white
deriving DecidableEq, Repr, Inhabited

namespace LedColor

def all : List LedColor := [.off, .red, .green, .amber, .blue, .magenta, .cyan, .white]

def name : LedColor → String
  | .off => "off"
  | .red => "red"
  | .green => "green"
  | .amber => "amber"
  | .blue => "blue"
  | .magenta => "magenta"
  | .cyan => "cyan"
  | .white => "white"

def names : List String := all.map name

def ofIndex (i : Nat) : LedColor := all.getD i .off

def decode : Decode LedColor := ofIndex <$> Decode.variant names

/-- Reads a colour from a JSON value: its name, or an object with the name as its one key and
`null` as value. -/
def fromValue : Value → Except Problem LedColor
  | .str n => ofIndex <$> Decode.variantIndex names n
  | .obj [(n, v)] => do
    let i ← Decode.variantIndex names n
    match v with
    | .null => pure (ofIndex i)
    | other => .error (.invalidType other.unexpected "unit")
  | .obj _ => .error (.invalidValue .map "map with a single key")
  | other => .error (.invalidType other.unexpected "string or map")

def ofValue (v : Value) : Except Json.Error LedColor := (fromValue v).mapError (⟨·, none⟩)

end LedColor

structure Feedback where
  led : LedColor
  beepCount : UInt8
  displayMessage : Option String
  duration : Span
deriving DecidableEq, Repr, Inhabited

namespace Feedback

def make (led : LedColor) : Feedback := ⟨led, 0, none, Span.ofSecs 1⟩

def granted : Feedback := { make .green with beepCount := 1 }

def denied : Feedback := { make .red with beepCount := 3 }

def toJson (f : Feedback) : Value :=
  .obj [("led", .str f.led.name), ("beep_count", .int f.beepCount.toNat),
    ("display_message", Value.ofOption .str f.displayMessage),
    ("duration", .int (f.duration.millis % Nat.pow 2 64))]

structure Fields where
  led : Option LedColor
  beepCount : Option UInt8
  displayMessage : Option (Option String)
  duration : Option Span

def readField (i : Nat) (f : Fields) : Decode Fields :=
  match i with
  | 0 => do return { f with led := some (← LedColor.decode) }
  | 1 => do return { f with beepCount := some (UInt8.ofNat (← Decode.unsigned "u8" 255)) }
  | 2 => do return { f with displayMessage := some (← Decode.option Decode.string) }
  | _ => do return { f with duration := some (Span.ofMillis (← Decode.unsigned "u64" (Nat.pow 2 64 - 1))) }

/-- The feedback from all its fields; the message may be missing. -/
def complete (f : Fields) : Except Problem Feedback :=
  match f.led, f.beepCount, f.duration with
  | none, _, _ => .error (.missingField "led")
  | _, none, _ => .error (.missingField "beep_count")
  | some led, some beeps, some duration => .ok ⟨led, beeps, f.displayMessage.getD none, duration⟩
  | _, _, none => .error (.missingField "duration")

def reader : Decode.RecordReader Fields Feedback where
  expecting := "struct ReaderFeedback"
  names := ["led", "beep_count", "display_message", "duration"]
  start := ⟨none, none, none, none⟩
  readField := readField
  complete := fun _ f => complete f
  short := fun n _ => .error (.invalidLength n "struct ReaderFeedback with 4 elements")

def ofJsonText (text : String) : Except Json.Error Feedback :=
  Decode.run (Decode.record reader) text

def fieldOfValue (i : Nat) (f : Fields) (v : Value) : Except Problem Fields :=
  match i with
  | 0 => do return { f with led := some (← LedColor.fromValue v) }
  | 1 => do return { f with beepCount := some (UInt8.ofNat (← v.toUnsigned "u8" 255)) }
  | 2 => do return { f with displayMessage := some (← v.toOptional Value.toText) }
  | _ => do return { f with duration := some (Span.ofMillis (← v.toUnsigned "u64" (Nat.pow 2 64 - 1))) }

def treeReader : TreeRecord Fields Feedback where
  expecting := "struct ReaderFeedback"
  names := ["led", "beep_count", "display_message", "duration"]
  start := ⟨none, none, none, none⟩
  readField := fieldOfValue
  complete := complete
  short := fun n => .invalidLength n "struct ReaderFeedback with 4 elements"

def ofValue (v : Value) : Except Json.Error Feedback := (treeReader.read v).mapError (⟨·, none⟩)

end Feedback

end OsdpTrace
