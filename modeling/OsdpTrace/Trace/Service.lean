import OsdpTrace.Trace.Buffer
import OsdpTrace.Trace.Stats

/-!
The trace service: the buffers of all readers, the readers being traced, and the settings in
force. A capture for a reader being traced is decoded and stored in the reader's buffer; the
service then keeps all buffers together within the global limit by dropping the globally
oldest entries, and announces the stored entry. A capture is ignored when tracing is off or the
reader is not being traced, and dropped when it cannot be decoded. Views hide polls and
acknowledgements when the settings say so. The traces are kept ordered by reader id, one per id,
and so are the readers being traced, each once.

The readers sit in a hash map, kept here in the order of their ids. A visit of the map takes them
in an order its hashing decides and nothing promises; the global limit, the statistics and the
view of all readers depend on it on ties. Each takes that order as an argument, `place`, and
visits readers by increasing place, readers of one place by id. Every order of the readers is the
visit of some `place`, so what is proved for every `place` holds whatever order the map uses.
-/
namespace OsdpTrace

/-- The trace of one reader: its buffer, and the time of its last stored entry since the trace
was created or cleared, which the next entry's interval is measured from. -/
structure ReaderTrace where
  buffer : Buffer
  cursor : Option Instant
deriving Inhabited

inductive Outcome where
  | stored
  | dropped
  | ignored
deriving DecidableEq, Repr

def Outcome.name : Outcome → String
  | .stored => "stored"
  | .dropped => "dropped"
  | .ignored => "ignored"

structure Notification where
  readerId : ReaderId
  entry : Entry

structure Summary where
  readerId : ReaderId
  readerName : Option String
  entryCount : Nat
  memoryBytes : Nat
  isTracing : Bool

structure Service where
  settings : Settings
  readers : List (ReaderId × ReaderTrace)
  active : List ReaderId
deriving Inhabited

def insertId (id : ReaderId) : List ReaderId → List ReaderId
  | [] => [id]
  | x :: rest =>
    if id.bits < x.bits then id :: x :: rest
    else if id.bits = x.bits then x :: rest
    else x :: insertId id rest

def insertTrace (id : ReaderId) (t : ReaderTrace) :
    List (ReaderId × ReaderTrace) → List (ReaderId × ReaderTrace)
  | [] => [(id, t)]
  | x :: rest =>
    if id.bits < x.1.bits then (id, t) :: x :: rest
    else if id.bits = x.1.bits then x :: rest
    else x :: insertTrace id t rest

def Settings.hides (s : Settings) (e : Entry) : Bool :=
  (s.filterPollCommands && e.frame.isPoll) || (s.filterAckReplies && e.frame.isAck)

def Settings.globalLimit (s : Settings) : Nat :=
  max 1 (min s.maxTotalEntries.toNat (s.memoryLimitBytes.toNat / entryBytes))

namespace Service

def new (settings : Settings) : Service := ⟨settings, [], []⟩

def trace? (s : Service) (id : ReaderId) : Option ReaderTrace :=
  (s.readers.find? (·.1 == id)).map (·.2)

def modifyTrace (s : Service) (id : ReaderId) (f : ReaderTrace → ReaderTrace) : Service :=
  { s with readers := s.readers.map fun p => if p.1 == id then (p.1, f p.2) else p }

def modifyTraces (s : Service) (f : ReaderTrace → ReaderTrace) : Service :=
  { s with readers := s.readers.map fun p => (p.1, f p.2) }

def isTracing (s : Service) (id : ReaderId) : Bool := s.active.contains id

def start (s : Service) (id : ReaderId) : Service :=
  { s with
    readers := insertTrace id ⟨Buffer.empty (Limits.ofSettings s.settings), none⟩ s.readers
    active := insertId id s.active }

def stop (s : Service) (id : ReaderId) : Service :=
  { s with active := s.active.filter (· != id) }

def stopAll (s : Service) : Service := { s with active := [] }

/-- Starts tracing every reader a directory lists, and tells how many it listed. A directory
that cannot list its readers changes nothing. -/
def startAll (s : Service) (directory : Option (List ReaderId)) : Service × Nat :=
  match directory with
  | none => (s, 0)
  | some ids => (ids.foldl start s, ids.length)

def remove (s : Service) (id : ReaderId) : Service :=
  { s with active := s.active.filter (· != id), readers := s.readers.filter (·.1 != id) }

def clear (s : Service) (id : Option ReaderId) : Service :=
  let empty := fun (t : ReaderTrace) => ({ buffer := t.buffer.clear, cursor := none } : ReaderTrace)
  match id with
  | some id => s.modifyTrace id empty
  | none => s.modifyTraces empty

def total (s : Service) : Nat := (s.readers.map (·.2.buffer.length)).foldr (· + ·) 0

def insertByPlace (place : ReaderId → Nat) (p : ReaderId × ReaderTrace) :
    List (ReaderId × ReaderTrace) → List (ReaderId × ReaderTrace)
  | [] => [p]
  | q :: rest => if place p.1 ≤ place q.1 then p :: q :: rest else q :: insertByPlace place p rest

/-- The readers in the order a visit of the map takes them: by increasing place, and readers of
one place in id order. -/
def visit (s : Service) (place : ReaderId → Nat) : List (ReaderId × ReaderTrace) :=
  s.readers.foldr (insertByPlace place) []

def byId : ReaderId → Nat := fun _ => 0

/-- The reader whose oldest entry is the oldest of all, the first the visit meets on a tie. -/
def oldestReader? (s : Service) (place : ReaderId → Nat) : Option ReaderId :=
  let heads := (s.visit place).filterMap fun p => p.2.buffer.oldest?.map fun t => (p.1, t)
  (heads.foldl (fun (best : Option (ReaderId × Instant)) h =>
    match best with
    | some b => if h.2 < b.2 then some h else some b
    | none => some h) none).map (·.1)

def evictGlobally (s : Service) (place : ReaderId → Nat) : Nat → Service
  | 0 => s
  | n + 1 =>
    match s.oldestReader? place with
    | some id =>
      (s.modifyTrace id fun t => { t with buffer := (t.buffer.evictOldest 1).1 }).evictGlobally place n
    | none => s

/-- Drops the globally oldest entries until all buffers together are within the limit of the
settings; tells how many were dropped. -/
def enforceGlobalLimit (s : Service) (settings : Settings) (place : ReaderId → Nat) : Service × Nat :=
  let excess := s.total - settings.globalLimit
  (s.evictGlobally place excess, excess)

/-- Puts new settings in force: every buffer takes the new limits, then the global limit is
enforced. -/
def updateSettings (s : Service) (settings : Settings) (place : ReaderId → Nat) : Service :=
  let limits := Limits.ofSettings settings
  let s := { s with settings := settings }
  let s := s.modifyTraces fun t => { t with buffer := (t.buffer.applyLimits limits).1 }
  (s.enforceGlobalLimit settings place).1

/-- Handles a captured frame for a reader: a frame decoded into an entry is added to the
reader's buffer, which measures its interval from the reader's last entry, and the global limit is
then enforced. -/
def capture (decode : List UInt8 → Option Frame) (s : Service) (c : Capture) (place : ReaderId → Nat) :
    Service × Outcome × Option Notification :=
  if !s.settings.enabled || !s.isTracing c.readerId then (s, .ignored, none)
  else match s.trace? c.readerId with
    | none => (s, .ignored, none)
    | some t =>
      match buildEntry decode c t.cursor s.settings with
      | .dropped => (s, .dropped, none)
      | .built e =>
        let s := s.modifyTrace c.readerId fun t =>
          { buffer := (t.buffer.add e).1, cursor := some e.timestamp }
        ((s.enforceGlobalLimit s.settings place).1, .stored, some ⟨c.readerId, e⟩)

def collect (s : Service) (id : Option ReaderId) (place : ReaderId → Nat) : List Entry :=
  match id with
  | some id => ((s.trace? id).map (·.buffer.newestFirst none)).getD []
  | none => (s.visit place).flatMap (·.2.buffer.newestFirst none)

/-- The visible entries of one reader or of all, newest first, at most `limit`. -/
def traces (s : Service) (id : Option ReaderId) (limit : Option Nat) (place : ReaderId → Nat) : List Entry :=
  let sorted := ((s.collect id place).filter fun e => !s.settings.hides e).mergeSort
    fun x y => decide (y.timestamp ≤ x.timestamp)
  match limit with
  | some n => sorted.take n
  | none => sorted

def exportEntries (s : Service) (id : Option ReaderId) (place : ReaderId → Nat) : List Entry :=
  ((s.collect id place).filter fun e => !s.settings.hides e).mergeSort
    fun x y => decide (x.timestamp ≤ y.timestamp)

def statistics (s : Service) (place : ReaderId → Nat) : Stats :=
  computeStats ((s.visit place).map fun p => (p.1, p.2.buffer.oldestFirst))

def memoryUsage (s : Service) : Nat := (s.readers.map (·.2.buffer.memory)).foldr (· + ·) 0

def summaries (s : Service) : List Summary :=
  s.readers.map fun (id, t) =>
    ⟨id, t.buffer.last?.map (·.readerName), t.buffer.length, t.buffer.memory, s.isTracing id⟩

def sweep (s : Service) (now : Instant) : Service × Nat :=
  let swept := s.readers.map fun (id, t) =>
    let (b, n) := t.buffer.sweep now
    ((id, { t with buffer := b }), n)
  ({ s with readers := swept.map (·.1) }, (swept.map (·.2)).foldr (· + ·) 0)

end Service

end OsdpTrace
