import OsdpTrace.Trace.Entry

/-!
Reply statistics. The entries of a reader are put in time order, keeping the order of entries
with the same time. Every outbound entry except the last one is a request; a request is
answered when the entry right after it is inbound, and the time between the two, in whole
microseconds, is a response time in milliseconds. The last outbound entry is left out because
its reply may still be on its way.
-/
namespace OsdpTrace

structure ReaderStats where
  readerId : Option ReaderId
  requests : Nat
  matchedReplies : Nat
  responseTimesMs : List Float
deriving Inhabited

def countFloat (n : Nat) : Float := (UInt64.ofNat n).toFloat

def percentage (part whole : Nat) : Float :=
  if whole = 0 then 0.0 else countFloat part / countFloat whole * 100.0

def mean (values : List Float) : Float :=
  if values.isEmpty then 0.0 else values.foldl (· + ·) 0.0 / countFloat values.length

def maxI64 : Nat := Nat.pow 2 63 - 1

/-- The time from a request to its reply in milliseconds, from the span in whole microseconds
(cut toward zero), when those are not negative and fit a 64-bit signed number. -/
def responseTimeMs (request reply : Instant) : Option Float :=
  let micros := (reply.spanFrom request).tdiv 1000
  if micros < 0 then none
  else if micros.toNat ≤ maxI64 then some ((UInt64.ofNat micros.toNat).toFloat / 1000.0) else none

namespace ReaderStats

def replyPercentage (s : ReaderStats) : Float := percentage s.matchedReplies s.requests

def averageResponseTimeMs (s : ReaderStats) : Float := mean s.responseTimesMs

end ReaderStats

def timeOrder (entries : List Entry) : List Entry :=
  entries.mergeSort fun a b => decide (a.timestamp ≤ b.timestamp)

def lastOutbound (entries : List Entry) : Option Nat :=
  (entries.zipIdx.filter (·.1.direction.isOutbound)).getLast?.map (·.2)

/-- Counts one entry at position `i`, followed by `next`, into the statistics. -/
def countRequest (pending : Option Nat) (s : ReaderStats) (e : Entry) (next : Option Entry)
    (i : Nat) : ReaderStats :=
  if !e.direction.isOutbound ∨ pending = some i then s
  else
    let s := { s with requests := s.requests + 1 }
    match next with
    | some reply =>
      if reply.direction.isInbound then
        let s := { s with matchedReplies := s.matchedReplies + 1 }
        match responseTimeMs e.timestamp reply.timestamp with
        | some t => { s with responseTimesMs := s.responseTimesMs ++ [t] }
        | none => s
      else s
    | none => s

def withNext : List Entry → List (Entry × Option Entry)
  | [] => []
  | [e] => [(e, none)]
  | e :: f :: rest => (e, some f) :: withNext (f :: rest)

/-- The reply statistics of one reader's entries, in any order. -/
def analyzeReader (entries : List Entry) : ReaderStats :=
  let ordered := timeOrder entries
  let pending := lastOutbound ordered
  let start : ReaderStats := ⟨ordered.head?.map (·.readerId), 0, 0, []⟩
  (withNext ordered).zipIdx.foldl (fun s p => countRequest pending s p.1.1 p.1.2 p.2) start

structure Stats where
  totalRequests : Nat
  matchedReplies : Nat
  replyPercentage : Float
  averageResponseTimeMs : Float
  responseTimeSamples : Nat
  minResponseTimeMs : Option Float
  maxResponseTimeMs : Option Float
  perReader : List ReaderStats

def computeStats (readers : List (ReaderId × List Entry)) : Stats :=
  let perReader := readers.map fun (id, entries) => { analyzeReader entries with readerId := some id }
  let total := (perReader.map (·.requests)).foldr (· + ·) 0
  let matched := (perReader.map (·.matchedReplies)).foldr (· + ·) 0
  let samples := perReader.flatMap (·.responseTimesMs)
  { totalRequests := total
    matchedReplies := matched
    replyPercentage := percentage matched total
    averageResponseTimeMs := mean samples
    responseTimeSamples := samples.length
    minResponseTimeMs := samples.head?.map fun h => samples.tail.foldl min h
    maxResponseTimeMs := samples.head?.map fun h => samples.tail.foldl max h
    perReader := perReader }

end OsdpTrace
