import OsdpTrace.Trace.Entry
import OsdpTrace.Decimal.Shortest
import OsdpTrace.Sink
import OsdpTrace.Failure

/-!
Exports of trace entries: a text report for people, and JSON lines with one entry per line.
Both are written to a writer line by line, up to the first write it refuses.

The report writes intervals with a fixed number of decimals: the exact value of the float is
rounded to the last decimal kept, a value exactly halfway between two going to the one whose last
digit is even, all in exact arithmetic on naturals.
-/
namespace OsdpTrace.Decimal

/-- The value in units of `10 ^ -places`, rounded to nearest, ties to even. -/
def Binary.fixedUnits (x : Binary) (places : Nat) : Nat :=
  let num := x.mantissa * Nat.pow 2 x.exponent.toNat * Nat.pow 10 places
  let den := Nat.pow 2 (-x.exponent).toNat
  let q := num / den
  let r := num % den
  if 2 * r > den ∨ (2 * r = den ∧ q % 2 = 1) then q + 1 else q

def fixed (places : Nat) (x : Float) : String :=
  let bits := x.toBits
  let units := (Binary.ofBits bits).fixedUnits places
  let whole := toString (units / Nat.pow 10 places)
  let part := toString (units % Nat.pow 10 places)
  let part := String.ofList (List.replicate (places - part.length) '0') ++ part
  (if bits >>> 63 = 1 then "-" else "") ++ whole ++ (if places = 0 then "" else "." ++ part)

end OsdpTrace.Decimal

namespace OsdpTrace

namespace Report

def separator : String := String.ofList (List.replicate 60 '-')

def hexByte (n : Nat) : String := Text.hexPair n.toUInt8

def packetLines (e : Entry) : List String :=
  let f := e.frame
  [e.timestamp.reportText ++ "  " ++ e.direction.label ++ "  " ++ e.readerName ++ " [" ++
      e.readerId.toText ++ "]",
    "    " ++ f.name ++ " (0x" ++ hexByte f.code ++ ")  addr 0x" ++ hexByte f.address ++
      (if f.isBroadcast then " (broadcast)" else "") ++ "  seq " ++ toString f.sequence ++ "  " ++
      e.security.title] ++
  (if e.interval.isZero then [] else ["    interval: " ++ Decimal.fixed 3 e.interval.millisFloat ++ " ms"]) ++
  (if f.payload.isEmpty then [] else ["    data: " ++ Text.hexOfBytes f.payload]) ++
  (match f.raw with
    | some raw => ["    raw:  " ++ Text.hexOfBytes raw]
    | none => [])

def header (entries : List Entry) (generatedAt : Instant) : List String :=
  ["OSDP trace export", "Generated: " ++ generatedAt.reportText,
    "Packets: " ++ toString entries.length, separator]

def lines (entries : List Entry) (generatedAt : Instant) : List String :=
  header entries generatedAt ++ List.intercalate [""] (entries.map packetLines)

def text (entries : List Entry) (generatedAt : Instant) : String :=
  String.join ((lines entries generatedAt).map (· ++ "\n"))

def jsonLines (entries : List Entry) : String :=
  String.join (entries.map fun e => e.toJsonText ++ "\n")

def writePacket (e : Entry) : EStateM String Sink Unit := Sink.writeLines (packetLines e)

def writePackets : Bool → List Entry → EStateM String Sink Unit
  | _, [] => pure ()
  | first, e :: rest => do
    if !first then Sink.writeLine ""
    writePacket e
    writePackets false rest

/-- Writes the text report: the header, then the entries. The first refused write ends it. -/
def writeText (entries : List Entry) (generatedAt : Instant) : EStateM String Sink Unit := do
  Sink.writeLines (header entries generatedAt)
  writePackets true entries

/-- Writes each entry's compact JSON, then a line break. The first refused write ends it.
Serializing an entry writes its JSON to the writer, so a refusal there is reported as a JSON
failure; a refusal of the line break is an I/O failure. -/
def writeJsonLines : List Entry → EStateM Failure Sink Unit
  | [] => pure ()
  | e :: rest => do
    (Sink.writeStr e.toJsonText).adaptExcept fun reason => .json ⟨.custom reason, none⟩
    (Sink.writeStr "\n").adaptExcept .io
    writeJsonLines rest

end Report

end OsdpTrace
