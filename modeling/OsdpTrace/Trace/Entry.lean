import OsdpTrace.Frame
import OsdpTrace.ReaderId
import OsdpTrace.Settings.Basic
import OsdpTrace.Time.Text

/-!
Trace entries: one decoded frame of one reader, with when it was captured, the time since the
reader's previous entry, and its security class. An entry is built from captured bytes by a
decoder; bytes the decoder refuses are dropped. The settings decide whether the captured bytes
are kept as raw bytes and whether the payload is kept.
-/
namespace OsdpTrace

/-- One captured frame of one reader. -/
structure Entry where
  readerId : ReaderId
  readerName : String
  direction : Direction
  timestamp : Instant
  interval : Span
  security : Security
  frame : Frame
deriving DecidableEq, Repr, Inhabited

namespace Entry

def make (readerId : ReaderId) (readerName : String) (direction : Direction) (timestamp : Instant)
    (interval : Span) (frame : Frame) : Entry :=
  ⟨readerId, readerName, direction, timestamp, interval,
    Security.ofFlags frame.isSecure frame.usesDefaultKey, frame⟩

def toJson (e : Entry) : Json.Value :=
  .obj [("reader_id", .str e.readerId.toText), ("reader_name", .str e.readerName),
    ("direction", .str e.direction.name), ("timestamp", .str e.timestamp.toText),
    ("interval_ms", .float e.interval.millisFloat), ("security", .str e.security.name),
    ("frame", e.frame.toJson)]

def toJsonText (e : Entry) : String := e.toJson.compact

end Entry

structure Capture where
  bytes : List UInt8
  source : Source
  readerId : ReaderId
  readerName : String
  receivedAt : Instant

inductive Built where
  | built (entry : Entry)
  | dropped
deriving DecidableEq, Repr

def Built.entry? : Built → Option Entry
  | .built e => some e
  | .dropped => none

/-- Builds the entry of a capture. The decoder may refuse the bytes. Raw bytes are kept only when
the settings capture them: the decoder's own, else the captured bytes. The payload is emptied
unless the settings keep it. The interval runs from the previous entry, and is zero when there
is none or the clock went back. -/
def buildEntry (decode : List UInt8 → Option Frame) (c : Capture) (previous : Option Instant)
    (s : Settings) : Built :=
  match decode c.bytes with
  | none => .dropped
  | some frame =>
    let frame := { frame with raw := if s.captureRawData then frame.raw.getD c.bytes |> some else none }
    let frame := if s.decodePayloads then frame else { frame with payload := [] }
    let interval := match previous with
      | some p => c.receivedAt.since p
      | none => Span.zero
    .built (Entry.make c.readerId c.readerName c.source.direction c.receivedAt interval frame)

end OsdpTrace
