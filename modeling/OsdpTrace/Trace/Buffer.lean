import OsdpTrace.Trace.Limits
import OsdpTrace.Trace.Entry

/-!
The trace buffer of one reader: its entries in the order they were added, oldest first, under
its limits. Adding an entry drops entries from the head down to the capacity. The age sweep, in
the age modes, drops head entries older than the age limit; it stops at the first entry that is
recent enough, even when older ones follow. Every operation that drops entries tells how many.

The buffer keeps its own estimate of the memory its entries take. The operations that drop
entries set it anew, at 192 bytes an entry, once they are done; clearing sets it to zero on its
own path, and a sweep without a cutoff leaves it as it was.
-/
namespace OsdpTrace

/-- The entries of one reader, oldest added first, the memory estimate last set for them, and
the limits they are kept under. -/
structure Buffer where
  entries : List Entry
  memory : Nat
  limits : Limits
deriving Inhabited

namespace Buffer

def empty (limits : Limits) : Buffer := ⟨[], 0, limits⟩

def length (b : Buffer) : Nat := b.entries.length

def isEmpty (b : Buffer) : Bool := b.entries.isEmpty

def recomputeMemory (b : Buffer) : Buffer := { b with memory := entryBytes * b.length }

def oldest? (b : Buffer) : Option Instant := b.entries.head?.map (·.timestamp)

def last? (b : Buffer) : Option Entry := b.entries.getLast?

/-- Drops entries from the head down to a capacity; gives how many were dropped. The memory
estimate is left to the caller. -/
def trimTo (b : Buffer) (capacity : Nat) : Buffer × Nat :=
  let excess := b.length - capacity
  ({ b with entries := b.entries.drop excess }, excess)

def add (b : Buffer) (e : Entry) : Buffer × Nat :=
  let trimmed := { b with entries := b.entries ++ [e] }.trimTo b.limits.capacity
  (trimmed.1.recomputeMemory, trimmed.2)

/-- The instant before which entries are stale at `now`: only in the age modes with an age
limit, and only when the age fits and the instant exists. -/
def cutoff? (l : Limits) (now : Instant) : Option Instant :=
  if l.evictionMode.enforcesAge then l.maxAge.bind now.subSpan? else none

def sweep (b : Buffer) (now : Instant) : Buffer × Nat :=
  match cutoff? b.limits now with
  | none => (b, 0)
  | some c =>
    let kept := b.entries.dropWhile fun e => decide (e.timestamp < c)
    ({ b with entries := kept }.recomputeMemory, b.length - kept.length)

def evictOldest (b : Buffer) (count : Nat) : Buffer × Nat :=
  let n := min count b.length
  ({ b with entries := b.entries.drop n }.recomputeMemory, n)

def clear (b : Buffer) : Buffer := { b with entries := [], memory := 0 }

def applyLimits (b : Buffer) (l : Limits) : Buffer × Nat :=
  let trimmed := { b with limits := l }.trimTo l.capacity
  (trimmed.1.recomputeMemory, trimmed.2)

/-- Entries newest first: by time, later first, and among entries of the same time the one
added later first; at most `limit` of them. -/
def newestFirst (b : Buffer) (limit : Option Nat) : List Entry :=
  let sorted := b.entries.reverse.mergeSort fun x y => decide (y.timestamp ≤ x.timestamp)
  match limit with
  | some n => sorted.take n
  | none => sorted

def oldestFirst (b : Buffer) : List Entry :=
  b.entries.mergeSort fun x y => decide (x.timestamp ≤ y.timestamp)

inductive Edit where
  | add (e : Entry)
  | sweep (now : Instant)
  | evictOldest (count : Nat)
  | clear
  | applyLimits (l : Limits)

def edit (b : Buffer) : Edit → Buffer
  | .add e => (b.add e).1
  | .sweep now => (b.sweep now).1
  | .evictOldest count => (b.evictOldest count).1
  | .clear => b.clear
  | .applyLimits l => (b.applyLimits l).1

def editAll (b : Buffer) (edits : List Edit) : Buffer := edits.foldl edit b

end Buffer

end OsdpTrace
