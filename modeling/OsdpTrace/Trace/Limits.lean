import OsdpTrace.Settings.Basic

/-!
The limits of one reader's trace buffer, taken from the settings. The capacity of a buffer is
its entry limit, lowered to what its memory limit holds when the mode bounds memory, and never
below one entry.
-/
namespace OsdpTrace

structure Limits where
  maxEntries : Nat
  maxMemoryBytes : Nat
  maxAge : Option Span
  evictionMode : EvictionMode
deriving DecidableEq, Repr

namespace Limits

def ofSettings (s : Settings) : Limits where
  maxEntries := s.maxEntriesPerReader.toNat
  maxMemoryBytes := s.maxMemoryPerReaderBytes.toNat
  maxAge := s.maxAge
  evictionMode := s.evictionMode

def default : Limits := ofSettings Settings.default

instance : Inhabited Limits := ⟨default⟩

/-- The most entries a buffer keeps. -/
def capacity (l : Limits) : Nat :=
  max 1 (if l.evictionMode.enforcesSize then min l.maxEntries (l.maxMemoryBytes / entryBytes)
    else l.maxEntries)

end Limits

end OsdpTrace
