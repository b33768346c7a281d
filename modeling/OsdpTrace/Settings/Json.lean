import OsdpTrace.Settings.Basic
import OsdpTrace.Failure
import OsdpTrace.Json.Decoder.Typed

/-!
Settings as JSON. Spans are written in whole milliseconds, at most the largest 64-bit value.
When read, every field may be left out and takes its default value; the fields may also be given
as an array, in their order, with the missing tail taking defaults. Unknown keys are skipped.
-/
namespace OsdpTrace

open Json

namespace EvictionMode

def toJson (m : EvictionMode) : Value := .str m.name

def decode : Decode EvictionMode := ofIndex <$> Decode.variant names

def indexOfName (name : String) : Except Problem Nat := Decode.variantIndex names name

def ofValue : Value → Except Json.Error EvictionMode
  | .str name =>
    match indexOfName name with
    | .ok i => .ok (ofIndex i)
    | .error p => .error ⟨p, none⟩
  | .obj [(name, v)] =>
    match indexOfName name with
    | .error p => .error ⟨p, none⟩
    | .ok i =>
      match v with
      | .null => .ok (ofIndex i)
      | other => .error ⟨.invalidType other.unexpected "unit", none⟩
  | .obj _ => .error ⟨.invalidValue .map "map with a single key", none⟩
  | other => .error ⟨.invalidType other.unexpected "string or map", none⟩

end EvictionMode

def spanMillisJson (s : Span) : Value := .int (min s.millis maxU64)

namespace Settings

def fieldNames : List String :=
  ["enabled", "filter_poll_commands", "filter_ack_replies", "memory_limit_bytes",
    "max_entries_per_reader", "max_total_entries", "max_memory_per_reader_bytes", "max_age",
    "eviction_mode", "capture_raw_data", "decode_payloads", "sweep_interval"]

def toJson (s : Settings) : Value :=
  .obj [
    ("enabled", .bool s.enabled),
    ("filter_poll_commands", .bool s.filterPollCommands),
    ("filter_ack_replies", .bool s.filterAckReplies),
    ("memory_limit_bytes", .int s.memoryLimitBytes.toNat),
    ("max_entries_per_reader", .int s.maxEntriesPerReader.toNat),
    ("max_total_entries", .int s.maxTotalEntries.toNat),
    ("max_memory_per_reader_bytes", .int s.maxMemoryPerReaderBytes.toNat),
    ("max_age", Value.ofOption spanMillisJson s.maxAge),
    ("eviction_mode", s.evictionMode.toJson),
    ("capture_raw_data", .bool s.captureRawData),
    ("decode_payloads", .bool s.decodePayloads),
    ("sweep_interval", spanMillisJson s.sweepInterval)]

def toJsonText (s : Settings) : String := s.toJson.pretty

def count : Decode UInt64 := UInt64.ofNat <$> Decode.unsigned "usize" maxU64

def millis : Decode Span := Span.ofMillis <$> Decode.unsigned "u64" maxU64

def readField (i : Nat) (s : Settings) : Decode Settings :=
  match i with
  | 0 => do return { s with enabled := ← Decode.bool }
  | 1 => do return { s with filterPollCommands := ← Decode.bool }
  | 2 => do return { s with filterAckReplies := ← Decode.bool }
  | 3 => do return { s with memoryLimitBytes := ← count }
  | 4 => do return { s with maxEntriesPerReader := ← count }
  | 5 => do return { s with maxTotalEntries := ← count }
  | 6 => do return { s with maxMemoryPerReaderBytes := ← count }
  | 7 => do return { s with maxAge := ← Decode.option millis }
  | 8 => do return { s with evictionMode := ← EvictionMode.decode }
  | 9 => do return { s with captureRawData := ← Decode.bool }
  | 10 => do return { s with decodePayloads := ← Decode.bool }
  | _ => do return { s with sweepInterval := ← millis }

/-- How settings are read: every field starts at its default. -/
def reader : Decode.RecordReader Settings Settings where
  expecting := "struct TracingSettings"
  names := fieldNames
  start := default
  readField := readField
  complete := fun _ s => .ok s
  short := fun _ s => .ok s

def ofJsonText (text : String) : Except Json.Error Settings :=
  Decode.run (Decode.record reader) text

/-- Reads settings from JSON text and checks them. -/
def parse (text : String) : Except Failure Settings :=
  match ofJsonText text with
  | .error e => .error (.json e)
  | .ok s =>
    match s.validate with
    | .error reason => .error (.config reason)
    | .ok () => .ok s

end Settings

end OsdpTrace
