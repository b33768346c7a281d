import OsdpTrace.Proofs.Eviction
import OsdpTrace.Proofs.Invariant

/-! The age sweep. In the age modes with an age limit, a buffer drops the longest run of entries
at its head that are earlier than the cutoff, the instant the age limit before the sweep, and
tells how many it dropped; otherwise it drops nothing. The cutoff is exact: read as nanoseconds
since the epoch it is the sweep's instant less the age, and there is none, so nothing is dropped,
exactly when the age does not fit 64-bit signed milliseconds or the cutoff would fall before the
first instant. The sweep stops at the first entry that is recent enough, so only a buffer in
order of time is left with no entry earlier than the cutoff. The service sweeps every buffer and
adds up what they dropped. -/
namespace OsdpTrace

namespace Instant

/-- Nanoseconds since the epoch; a leap second overlaps the second after it. -/
def nanos (t : Instant) : Int := t.second * nanosPerSecond + t.fraction

def first : Instant := ⟨firstDay * secondsPerDay, 0⟩

/-- An instant on the time line: its second lies on the days instants can take, and its
nanoseconds stay within a leap second. -/
structure Valid (t : Instant) : Prop where
  inRange : inRange t.second = true
  fraction_lt : t.fraction < 2 * nanosPerSecond

theorem inRange_iff (second : Int) :
    inRange second = true ↔ firstDay ≤ second / 86400 ∧ second / 86400 ≤ lastDay := by
  unfold inRange
  exact decide_eq_true_iff

theorem isLeap_iff (t : Instant) : t.isLeap = true ↔ 1000000000 ≤ t.fraction := by
  unfold isLeap
  exact decide_eq_true_iff

theorem first_nanos : first.nanos = firstDay * 86400 * 1000000000 := by
  simp [first, nanos, secondsPerDay, nanosPerSecond]

theorem ofNanos?_eq (n : Int) :
    ofNanos? n = if inRange (n / 1000000000) then some ⟨n / 1000000000, (n % 1000000000).toNat⟩ else none :=
  rfl

/-- Going back a span from an instant is exact on nanoseconds, unless the instant is inside a leap
second and the span is under a second: then it stays in that leap second. -/
theorem subSpan?_eq_ofNanos? {t : Instant} (valid : t.fraction < 2 * nanosPerSecond) {s : Span}
    (fits : s.nanos ≤ maxSpanNanos) (notLeapShort : ¬(t.isLeap ∧ s.secs = 0)) :
    t.subSpan? s = ofNanos? (t.nanos - s.nanos) := by
  simp only [subSpan?, gt_iff_lt, Nat.not_lt.mpr fits, if_false]
  rw [if_neg (by simpa using notLeapShort)]
  have parts : (s.secs : Int) * 1000000000 + s.subsecNanos = s.nanos ∧ s.subsecNanos < 1000000000 := by
    simp only [Span.secs, Span.subsecNanos, Span.nanosPerSec]
    omega
  rw [isLeap_iff] at notLeapShort
  simp only [nanosPerSecond] at valid
  -- from inside a leap second with a second or more to go back, count from the next second
  generalize moved : (if t.isLeap = true ∧ 0 < (s.secs : Int) then (t.second + 1, (t.fraction : Int) - nanosPerSecond)
    else (t.second, (t.fraction : Int))) = p
  have shape : p.1 * 1000000000 + p.2 = t.nanos ∧ 0 ≤ p.2 ∧ p.2 < 1000000000 := by
    subst moved
    by_cases leapLong : t.isLeap = true ∧ 0 < (s.secs : Int)
    · rw [if_pos leapLong]
      rw [isLeap_iff] at leapLong
      simp only [nanos, nanosPerSecond]
      omega
    · rw [if_neg leapLong]
      rw [isLeap_iff] at leapLong
      simp only [nanos, nanosPerSecond]
      omega
  simp only [ofNanos?, nanosPerSecond]
  -- a borrow from the seconds, or none: either way the second and nanoseconds of the difference
  split
  · rw [show p.1 - s.secs - 1 = (t.nanos - s.nanos) / ((1000000000 : Nat) : Int) by omega,
      show p.2 - s.subsecNanos + ((1000000000 : Nat) : Int) = (t.nanos - s.nanos) % ((1000000000 : Nat) : Int) by omega]
  · rw [show p.1 - s.secs = (t.nanos - s.nanos) / ((1000000000 : Nat) : Int) by omega,
      show p.2 - s.subsecNanos = (t.nanos - s.nanos) % ((1000000000 : Nat) : Int) by omega]

theorem subSpan?_leap_short {t : Instant} (valid : t.Valid) {s : Span} (fits : s.nanos ≤ maxSpanNanos)
    (leapShort : t.isLeap ∧ s.secs = 0) :
    t.subSpan? s = some ⟨t.second, t.fraction - s.subsecNanos⟩ := by
  have whole : (s.secs : Int) = 0 := by simp [leapShort.2]
  simp only [subSpan?, gt_iff_lt, Nat.not_lt.mpr fits, if_false, leapShort.1, whole, and_self, if_true,
    ofParts?, valid.inRange]

theorem subSpan?_of_long {t : Instant} {s : Span} (long : maxSpanNanos < s.nanos) : t.subSpan? s = none := by
  simp [subSpan?, long]

/-- Going back a span that fits 64-bit signed milliseconds from an instant on the time line gives
the instant whose nanoseconds are the difference, no later than where it started, and there is
none exactly when the difference falls before the first instant. -/
theorem subSpan?_spec {t : Instant} (valid : t.Valid) {s : Span} (fits : s.nanos ≤ maxSpanNanos) :
    (t.subSpan? s = none ↔ t.nanos - s.nanos < first.nanos) ∧
      ∀ c, t.subSpan? s = some c → c.nanos = t.nanos - s.nanos ∧ c ≤ t := by
  have range := (inRange_iff t.second).mp valid.inRange
  have below := valid.fraction_lt
  rw [first_nanos]
  simp only [nanosPerSecond] at below
  by_cases leapShort : t.isLeap ∧ s.secs = 0
  · -- inside a leap second, less than a second back: the same second, never out of range
    rw [subSpan?_leap_short valid fits leapShort]
    have short : s.nanos < 1000000000 := by
      have := leapShort.2
      simp only [Span.secs, Span.nanosPerSec] at this
      omega
    have leap := (isLeap_iff t).mp leapShort.1
    have subsec : s.subsecNanos = s.nanos := by
      simp only [Span.subsecNanos, Span.nanosPerSec]
      omega
    have inside : firstDay * 86400 * 1000000000 ≤ t.nanos - s.nanos := by
      simp only [nanos, nanosPerSecond]
      omega
    refine ⟨iff_of_false (by simp) (Int.not_lt.mpr inside), fun c found => ?_⟩
    cases found
    rw [le_iff, subsec]
    simp only [nanos, nanosPerSecond, Nat.cast_ofNat, true_and]
    omega
  · rw [subSpan?_eq_ofNanos? valid.fraction_lt fits leapShort, ofNanos?_eq]
    rw [isLeap_iff] at leapShort
    have whole : s.secs = s.nanos / 1000000000 := rfl
    -- the difference is never later than the start, so only the first day can be passed
    have notAfter : t.nanos - s.nanos ≤ t.nanos := by omega
    by_cases reached : inRange ((t.nanos - s.nanos) / 1000000000) = true
    · rw [if_pos reached]
      have inside := (inRange_iff _).mp reached
      refine ⟨iff_of_false (by simp) ?_, fun c found => ?_⟩
      · simp only [nanos, nanosPerSecond] at *
        omega
      · cases found
        rw [le_iff]
        simp only [nanos, nanosPerSecond] at *
        omega
    · rw [if_neg reached]
      rw [inRange_iff] at reached
      refine ⟨iff_of_true rfl ?_, fun c found => by cases found⟩
      simp only [nanos, nanosPerSecond] at *
      omega

end Instant

namespace Buffer

theorem cutoff?_of_age {l : Limits} {now : Instant} {a : Span} (age : l.evictionMode.enforcesAge = true)
    (limit : l.maxAge = some a) : cutoff? l now = now.subSpan? a := by
  simp [cutoff?, age, limit]

theorem cutoff?_of_no_age {l : Limits} {now : Instant}
    (noAge : l.evictionMode.enforcesAge = false ∨ l.maxAge = none) : cutoff? l now = none := by
  rcases noAge with sizeOnly | unlimited
  · simp [cutoff?, sizeOnly]
  · simp [cutoff?, unlimited]

theorem sweep_of_cutoff?_none {b : Buffer} {now : Instant} (none : cutoff? b.limits now = none) :
    b.sweep now = (b, 0) := by
  simp [sweep, none]

theorem sweep_of_cutoff?_some {b : Buffer} {now c : Instant} (cut : cutoff? b.limits now = some c) :
    b.sweep now = ({ b with entries := b.entries.dropWhile fun e => decide (e.timestamp < c) }.recomputeMemory,
      (b.entries.takeWhile fun e => decide (e.timestamp < c)).length) := by
  have lengths := congrArg List.length
    (@List.takeWhile_append_dropWhile _ (fun e => decide (e.timestamp < c)) b.entries)
  rw [List.length_append] at lengths
  simp only [sweep, cut, length_eq, Prod.mk.injEq, true_and]
  omega

theorem exact_sweep_of_cutoff?_some {b : Buffer} {now c : Instant} (cut : cutoff? b.limits now = some c) :
    (b.sweep now).1.Exact := by
  rw [sweep_of_cutoff?_some cut]
  exact exact_recomputeMemory _

theorem sweep_drops_stale_prefix {b : Buffer} {now c : Instant} (cut : cutoff? b.limits now = some c) :
    ∃ removed, b.entries = removed ++ (b.sweep now).1.entries ∧ removed.length = (b.sweep now).2 ∧
      (∀ e ∈ removed, e.timestamp < c) ∧ ∀ e ∈ (b.sweep now).1.entries.head?, ¬e.timestamp < c := by
  rw [sweep_of_cutoff?_some cut, recomputeMemory_entries]
  refine ⟨_, List.takeWhile_append_dropWhile.symm, rfl, fun e taken => ?_, fun e first => ?_⟩
  · simpa using List.mem_takeWhile_imp taken
  · have kept := List.head?_dropWhile_not (fun e : Entry => decide (e.timestamp < c)) b.entries
    rw [Option.mem_def.mp first] at kept
    simpa using kept

theorem sweep_keeps_recent {b : Buffer} (ordered : TimeOrdered b.entries) {now c : Instant}
    (cut : cutoff? b.limits now = some c) {e : Entry} (kept : e ∈ (b.sweep now).1.entries) : c ≤ e.timestamp := by
  obtain ⟨removed, split, -, -, fresh⟩ := sweep_drops_stale_prefix cut
  cases held : (b.sweep now).1.entries with
  | nil => simp [held] at kept
  | cons h rest =>
    have recent : c ≤ h.timestamp := Instant.not_lt.mp (fresh h (by simp [held]))
    have sorted : TimeOrdered (h :: rest) := by
      rw [← held]
      exact ordered.sublist (split ▸ List.sublist_append_right removed _)
    exact Instant.le_trans recent (head_le_of_mem sorted (held ▸ kept))

end Buffer

namespace Service

theorem sweep_count (s : Service) (now : Instant) :
    (s.sweep now).2 = (s.readers.map fun p => (p.2.buffer.sweep now).2).sum := by
  simp only [sweep, List.map_map]
  induction s.readers with
  | nil => rfl
  | cons p rest ih =>
    simp only [List.map_cons, List.foldr_cons, List.sum_cons, Function.comp_apply] at ih ⊢
    rw [ih]

/-- The cutoff of limits in an age mode with an age limit `a`, at an instant on the time line: there
is none exactly when `a` does not fit 64-bit signed milliseconds or the instant `a` before would
fall before the first instant; otherwise its nanoseconds are those of the instant less `a`. -/
theorem cutoff?_exact {l : Limits} {now : Instant} {a : Span} (age : l.evictionMode.enforcesAge = true)
    (limit : l.maxAge = some a) (valid : now.Valid) :
    (Buffer.cutoff? l now = none ↔ Instant.maxSpanNanos < a.nanos ∨ now.nanos - a.nanos < Instant.first.nanos) ∧
      ∀ c, Buffer.cutoff? l now = some c → c.nanos = now.nanos - a.nanos ∧ c ≤ now := by
  rw [Buffer.cutoff?_of_age age limit]
  by_cases long : Instant.maxSpanNanos < a.nanos
  · rw [Instant.subSpan?_of_long long]
    exact ⟨iff_of_true rfl (Or.inl long), fun c absent => by cases absent⟩
  · have spec := Instant.subSpan?_spec valid (Nat.le_of_not_lt long)
    exact ⟨spec.1.trans (or_iff_right long).symm, spec.2⟩

/-- The age sweep of a buffer at an instant, and of the service. In the age modes with an age
limit `a`, the cutoff is exact: it is missing exactly when `a` does not fit 64-bit signed
milliseconds or the instant `a` before `now` would fall before the first instant, and otherwise
its nanoseconds are those of `now` less `a`. In size mode or with no age limit there is no cutoff.
With no cutoff the sweep changes nothing and reports 0. With one it drops the longest run of head
entries earlier than the cutoff and reports how many, keeping the limits and counting what is left
at 192 bytes an entry; a buffer in order of time keeps no entry earlier than the cutoff. The
service sweeps every buffer and reports the sum. -/
theorem sweep_contract (b : Buffer) (now : Instant) (s : Service) :
    (∀ a, b.limits.evictionMode.enforcesAge = true → b.limits.maxAge = some a → now.Valid →
      (Buffer.cutoff? b.limits now = none ↔ Instant.maxSpanNanos < a.nanos ∨ now.nanos - a.nanos < Instant.first.nanos) ∧
      ∀ c, Buffer.cutoff? b.limits now = some c → c.nanos = now.nanos - a.nanos ∧ c ≤ now) ∧
    ((b.limits.evictionMode.enforcesAge = false ∨ b.limits.maxAge = none) → Buffer.cutoff? b.limits now = none) ∧
    (Buffer.cutoff? b.limits now = none → b.sweep now = (b, 0)) ∧
    (∀ c, Buffer.cutoff? b.limits now = some c →
      (∃ removed, b.entries = removed ++ (b.sweep now).1.entries ∧ removed.length = (b.sweep now).2 ∧
        (∀ e ∈ removed, e.timestamp < c) ∧ ∀ e ∈ (b.sweep now).1.entries.head?, ¬e.timestamp < c) ∧
      (b.sweep now).1.limits = b.limits ∧ (b.sweep now).1.memory = entryBytes * (b.sweep now).1.length ∧
      (TimeOrdered b.entries → ∀ e ∈ (b.sweep now).1.entries, c ≤ e.timestamp)) ∧
    (s.sweep now).1 = s.modifyTraces (fun t => { t with buffer := (t.buffer.sweep now).1 }) ∧
    (s.sweep now).2 = (s.readers.map fun p => (p.2.buffer.sweep now).2).sum :=
  ⟨fun _ age limit valid => cutoff?_exact age limit valid, Buffer.cutoff?_of_no_age,
    Buffer.sweep_of_cutoff?_none,
    fun _ cut => ⟨Buffer.sweep_drops_stale_prefix cut, Buffer.sweep_limits b now, Buffer.exact_sweep_of_cutoff?_some cut,
      fun ordered _ kept => Buffer.sweep_keeps_recent ordered cut kept⟩,
    sweep_eq_modifyTraces s now, sweep_count s now⟩

/-- A buffer in age-only mode with an age limit of ten seconds, swept at 35 s: the cutoff is 25 s,
and of its entries at 1 s and 30 s the first is dropped. -/
theorem sweep_contract_at_thirty_five :
    let b : Buffer := ⟨[{ (default : Entry) with timestamp := ⟨1, 0⟩ }, { (default : Entry) with timestamp := ⟨30, 0⟩ }],
      384, { Limits.default with evictionMode := .ageOnly, maxAge := some (Span.ofSecs 10) }⟩
    let now : Instant := ⟨35, 0⟩
    let s := Service.new Settings.default
    b.limits.evictionMode.enforcesAge = true ∧ b.limits.maxAge = some (Span.ofSecs 10) ∧ now.Valid ∧
      Buffer.cutoff? b.limits now = some ⟨25, 0⟩ ∧ TimeOrdered b.entries ∧ (b.sweep now).2 = 1 ∧
    ((∀ a, b.limits.evictionMode.enforcesAge = true → b.limits.maxAge = some a → now.Valid →
      (Buffer.cutoff? b.limits now = none ↔ Instant.maxSpanNanos < a.nanos ∨ now.nanos - a.nanos < Instant.first.nanos) ∧
      ∀ c, Buffer.cutoff? b.limits now = some c → c.nanos = now.nanos - a.nanos ∧ c ≤ now) ∧
    ((b.limits.evictionMode.enforcesAge = false ∨ b.limits.maxAge = none) → Buffer.cutoff? b.limits now = none) ∧
    (Buffer.cutoff? b.limits now = none → b.sweep now = (b, 0)) ∧
    (∀ c, Buffer.cutoff? b.limits now = some c →
      (∃ removed, b.entries = removed ++ (b.sweep now).1.entries ∧ removed.length = (b.sweep now).2 ∧
        (∀ e ∈ removed, e.timestamp < c) ∧ ∀ e ∈ (b.sweep now).1.entries.head?, ¬e.timestamp < c) ∧
      (b.sweep now).1.limits = b.limits ∧ (b.sweep now).1.memory = entryBytes * (b.sweep now).1.length ∧
      (TimeOrdered b.entries → ∀ e ∈ (b.sweep now).1.entries, c ≤ e.timestamp)) ∧
    (s.sweep now).1 = s.modifyTraces (fun t => { t with buffer := (t.buffer.sweep now).1 }) ∧
    (s.sweep now).2 = (s.readers.map fun p => (p.2.buffer.sweep now).2).sum) :=
  ⟨rfl, rfl, ⟨by decide, by decide⟩, by decide, by decide, by decide, sweep_contract _ _ _⟩

end Service

end OsdpTrace
