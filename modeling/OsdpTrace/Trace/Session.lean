import OsdpTrace.Trace.Service

/-!
A trace service at work: the service, one optional subscriber to its announcements, and the
age sweeper, a background task on a clock that moves only when asked to. The sweeper sleeps for
the sweep interval, sweeps as of the wall clock, and starts over, reading the interval each
time. It runs only while the clock is being moved by some time: it reads the interval for its
first sleep at the next such move, and a sleep that ends exactly where a move stops is only
acted on (by a sweep) at the start of the next such move. A move by no time lets nothing run.
No sleep, of the sweeper or of a move of the clock, lasts longer than thirty years. Once the
service is dropped, the sweeper ends the next time it runs.

The subscriber holds at most 256 announcements; when more arrive, the oldest are lost, and
the next drain reports how many before the ones kept.
-/
namespace OsdpTrace

/-- The announcements a subscriber has not taken yet. -/
structure Receiver where
  waiting : List Notification
  missed : Nat

inductive Delivery where
  | lagged (missed : Nat)
  | item (notification : Notification)

namespace Receiver

def capacity : Nat := 256

def empty : Receiver := ⟨[], 0⟩

/-- Receives an announcement, losing the oldest one when full. -/
def push (r : Receiver) (n : Notification) : Receiver :=
  let waiting := r.waiting ++ [n]
  if waiting.length > capacity then ⟨waiting.drop 1, r.missed + 1⟩ else ⟨waiting, r.missed⟩

def deliveries (r : Receiver) : List Delivery :=
  (if r.missed > 0 then [.lagged r.missed] else []) ++ r.waiting.map .item

end Receiver

/-- The age sweeper's task: none, started and not yet run, woken where the clock stopped (it
sweeps when it next runs), or asleep until a time of the clock, in nanoseconds. -/
inductive Sweeper where
  | idle
  | starting
  | woken
  | sleeping (deadline : Nat)
deriving DecidableEq, Repr

structure Session where
  service : Service
  alive : Bool
  clock : Nat
  sweeper : Sweeper
  receiver : Option Receiver
  wallClock : Instant

namespace Session

def new (settings : Settings) (subscribed : Bool) (wallClock : Instant) : Session :=
  ⟨Service.new settings, true, 0, .idle, if subscribed then some .empty else none, wallClock⟩

def withService (s : Session) (service : Service) : Session := { s with service := service }

def publish (s : Session) : Option Notification → Session
  | some n => { s with receiver := s.receiver.map (·.push n) }
  | none => s

def capture (decode : List UInt8 → Option Frame) (s : Session) (c : Capture) (place : ReaderId → Nat) :
    Session × Outcome :=
  let (service, outcome, note) := s.service.capture decode c place
  ((s.withService service).publish note, outcome)

def drain (s : Session) : Option (List Delivery × Session) :=
  s.receiver.map fun r => (r.deliveries, { s with receiver := some .empty })

def spawnSweeper (s : Session) : Session := { s with sweeper := .starting }

def abortSweeper (s : Session) : Session × Bool :=
  ({ s with sweeper := .idle }, s.sweeper != .idle)

/-- The longest sleep, in nanoseconds: thirty years of 365 days. A longer sleep ends after
this long. -/
def longestSleep : Nat := 30 * 365 * 86400 * Span.nanosPerSec

def interval (s : Session) : Nat := min s.service.settings.sweepInterval.nanos longestSleep

def sweepWall (s : Session) : Session := s.withService (s.service.sweep s.wallClock).1

/-- Lets the clock run `ms` milliseconds, at most the longest sleep. A move by no time ends at
once, and nothing runs. Otherwise the sweeper first does what is pending: one that has not run
yet starts its first sleep, one woken sweeps and sleeps again. Every wake-up before the end of
the time sweeps as of the wall clock; the wall clock does not move, so the wake-ups after the
first find nothing more to sweep, and only the next deadline is kept. A deadline at the very
end leaves the sweeper woken. -/
def advance (s : Session) (ms : Nat) : Session :=
  if ms = 0 then s else
  let target := s.clock + min (ms * Span.nanosPerMilli) longestSleep
  let i := s.interval
  let (s, deadline) := match s.sweeper with
    | .idle => (s, none)
    | .starting => (s, some (s.clock + i))
    | .woken => (s.sweepWall, some (s.clock + i))
    | .sleeping d => (s, some d)
  match deadline with
  | none => { s with clock := target }
  | some d =>
    if target < d then { s with clock := target, sweeper := .sleeping d }
    else if target = d then { s with clock := target, sweeper := .woken }
    else
      let next := if i = 0 then target else d + (target - d + i - 1) / i * i
      { s.sweepWall with clock := target, sweeper := if next = target then .woken else .sleeping next }

/-- Drops the service and waits for the sweeper to end: whether the service was still there,
and, when there was a sweeper, that it ended. -/
def drop (s : Session) : Session × Bool × Option Bool :=
  ({ s with alive := false, sweeper := .idle }, s.alive,
    if s.sweeper == .idle then none else some true)

def sweepNow (s : Session) : Session × Nat :=
  let (service, n) := s.service.sweep s.wallClock
  (s.withService service, n)

end Session

end OsdpTrace
