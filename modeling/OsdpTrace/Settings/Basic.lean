import OsdpTrace.Time.Span

/-!
Tracing settings: which captures are kept, which are hidden from views, and how much each
reader's buffer and all buffers together may hold. Every stored entry is counted as 192 bytes
of memory. Settings are checked by `Settings.validate`, which names the first value no buffer
could honour.
-/
namespace OsdpTrace

/-- Which limits a trace buffer enforces: entry count and memory on insertion, age only by the
periodic sweep, or both. The entry count is bounded in every mode. -/
inductive EvictionMode where
  | sizeOnly
  | ageOnly
  | hybrid
deriving DecidableEq, Repr, Inhabited

namespace EvictionMode

def enforcesSize : EvictionMode → Bool
  | .sizeOnly | .hybrid => true
  | .ageOnly => false

def enforcesAge : EvictionMode → Bool
  | .ageOnly | .hybrid => true
  | .sizeOnly => false

def name : EvictionMode → String
  | .sizeOnly => "size_only"
  | .ageOnly => "age_only"
  | .hybrid => "hybrid"

def title : EvictionMode → String
  | .sizeOnly => "SizeOnly"
  | .ageOnly => "AgeOnly"
  | .hybrid => "Hybrid"

def all : List EvictionMode := [.sizeOnly, .ageOnly, .hybrid]

def names : List String := all.map name

def ofIndex : Nat → EvictionMode
  | 1 => .ageOnly
  | 2 => .hybrid
  | _ => .sizeOnly

end EvictionMode

def entryBytes : Nat := 192

def maxU64 : Nat := Nat.pow 2 64 - 1

/-- Process-wide tracing settings. When `enabled` is off every capture is ignored; the two filters
hide polls and acknowledgements from views and exports; the memory and entry limits bound one
reader's buffer and all buffers together; `maxAge` is the age beyond which the sweep removes an
entry in the age modes, swept every `sweepInterval`; the last two flags say what a decoded frame
keeps: the captured bytes, and its payload. -/
structure Settings where
  enabled : Bool
  filterPollCommands : Bool
  filterAckReplies : Bool
  memoryLimitBytes : UInt64
  maxEntriesPerReader : UInt64
  maxTotalEntries : UInt64
  maxMemoryPerReaderBytes : UInt64
  maxAge : Option Span
  evictionMode : EvictionMode
  captureRawData : Bool
  decodePayloads : Bool
  sweepInterval : Span
deriving DecidableEq, Repr

namespace Settings

def default : Settings where
  enabled := true
  filterPollCommands := false
  filterAckReplies := false
  memoryLimitBytes := 10 * 1024 * 1024
  maxEntriesPerReader := 1000
  maxTotalEntries := 10000
  maxMemoryPerReaderBytes := 2 * 1024 * 1024
  maxAge := some (Span.ofSecs 3600)
  evictionMode := .sizeOnly
  captureRawData := true
  decodePayloads := true
  sweepInterval := Span.ofSecs 30

instance : Inhabited Settings := ⟨default⟩

/-- The first value of the settings that no buffer could honour, described. Checked in this
order: a buffer must hold an entry, the total must hold a full buffer, both memory limits must
hold an entry, sweeps must be spaced, and an age mode needs an age. -/
def problem? (s : Settings) : Option String :=
  if s.maxEntriesPerReader = 0 then
    some "max_entries_per_reader must be greater than zero"
  else if s.maxTotalEntries < s.maxEntriesPerReader then
    some ("max_total_entries (" ++ toString s.maxTotalEntries ++
      ") must be at least max_entries_per_reader (" ++ toString s.maxEntriesPerReader ++ ")")
  else if s.memoryLimitBytes.toNat < entryBytes ∨ s.maxMemoryPerReaderBytes.toNat < entryBytes then
    some ("memory limits must hold at least one entry (" ++ toString entryBytes ++ " bytes)")
  else if s.sweepInterval.isZero then
    some "sweep_interval must be greater than zero"
  else if s.evictionMode.enforcesAge ∧ (s.maxAge.map Span.isZero).getD true then
    some ("eviction mode " ++ s.evictionMode.title ++ " requires a non-zero max_age")
  else none

def validate (s : Settings) : Except String Unit :=
  match s.problem? with
  | some message => .error message
  | none => .ok ()

end Settings

end OsdpTrace
