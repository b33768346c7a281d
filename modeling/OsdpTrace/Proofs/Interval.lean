import OsdpTrace.Proofs.Capture
import OsdpTrace.Proofs.Lifecycle

/-! The interval of a stored entry: the time since the last capture stored for its reader since
the reader's trace was created or cleared, and zero when there is none or the clock went back.
That time is not read from the buffer but from the reader's cursor, so dropping entries moves it
nowhere: evictions for capacity or for the global limit, sweeps and new limits change buffers
only. The cursor moves at a stored capture for its reader and is forgotten when the trace is
cleared or created anew; the history of commands and their outcomes determines it. -/
namespace OsdpTrace

theorem buildEntry_interval {decode : List UInt8 → Option Frame} {c : Capture} {previous : Option Instant}
    {settings : Settings} {e : Entry} (built : buildEntry decode c previous settings = .built e) :
    e.timestamp = c.receivedAt ∧ e.interval = (previous.map c.receivedAt.since).getD Span.zero := by
  unfold buildEntry at built
  split at built
  · cases built
  · injection built with made
    subst made
    refine ⟨rfl, ?_⟩
    cases previous <;> rfl

namespace Service

def cursors (s : Service) : List (ReaderId × Option Instant) := s.readers.map fun p => (p.1, p.2.cursor)

theorem cursors_modifyTrace (s : Service) (id : ReaderId) {f : ReaderTrace → ReaderTrace}
    (keeps : ∀ t, (f t).cursor = t.cursor) : (s.modifyTrace id f).cursors = s.cursors := by
  simp only [cursors, modifyTrace, List.map_map]
  apply List.map_congr_left
  intro p _
  simp only [Function.comp_apply]
  split <;> simp [keeps]

theorem cursors_modifyTraces (s : Service) {f : ReaderTrace → ReaderTrace}
    (keeps : ∀ t, (f t).cursor = t.cursor) : (s.modifyTraces f).cursors = s.cursors := by
  simp [cursors, modifyTraces, keeps]

theorem cursors_evictGlobally (s : Service) (place : ReaderId → Nat) (n : Nat) :
    (s.evictGlobally place n).cursors = s.cursors := by
  induction n generalizing s with
  | zero => rfl
  | succ n ih =>
    rw [evictGlobally_succ]
    split
    · rw [ih]
      exact cursors_modifyTrace s _ fun _ => rfl
    · rfl

theorem cursors_enforceGlobalLimit (s : Service) (settings : Settings) (place : ReaderId → Nat) :
    (s.enforceGlobalLimit settings place).1.cursors = s.cursors :=
  cursors_evictGlobally s place _

theorem cursors_updateSettings (s : Service) (settings : Settings) (place : ReaderId → Nat) :
    (s.updateSettings settings place).cursors = s.cursors := by
  unfold updateSettings
  rw [cursors_enforceGlobalLimit]
  exact cursors_modifyTraces _ fun _ => rfl

theorem cursors_sweep (s : Service) (now : Instant) : (s.sweep now).1.cursors = s.cursors := by
  rw [sweep_eq_modifyTraces]
  exact cursors_modifyTraces s fun _ => rfl

theorem cursor_trace? (s : Service) (id : ReaderId) :
    (s.trace? id).map (·.cursor) = (s.cursors.find? (·.1 == id)).map (·.2) := by
  simp only [trace?, cursors, List.find?_map, Option.map_map]
  rfl

/-- The cursor of `id`, whenever `id` has a trace, is `last`. -/
def CursorIs (s : Service) (id : ReaderId) (last : Option Instant) : Prop :=
  ∀ t, s.trace? id = some t → t.cursor = last

theorem CursorIs.of_cursors {s' s : Service} {id : ReaderId} {last : Option Instant}
    (tracks : CursorIs s id last) (same : s'.cursors = s.cursors) : CursorIs s' id last := by
  intro t' found
  have looked : (s'.trace? id).map (·.cursor) = (s.trace? id).map (·.cursor) := by
    rw [cursor_trace?, cursor_trace?, same]
  rw [found, Option.map_some] at looked
  obtain ⟨t, present, equal⟩ := Option.map_eq_some_iff.mp looked.symm
  rw [← equal]
  exact tracks t present

theorem CursorIs.storeEntry {s : Service} {id : ReaderId} {last : Option Instant} (tracks : CursorIs s id last)
    (owner : ReaderId) (e : Entry) (place : ReaderId → Nat) :
    CursorIs (s.storeEntry owner e place) id (if owner = id then some e.timestamp else last) := by
  unfold Service.storeEntry
  apply CursorIs.of_cursors _ (cursors_enforceGlobalLimit _ _ place)
  intro t found
  by_cases own : owner = id
  · subst own
    rw [trace?_modifyTrace_self] at found
    obtain ⟨u, -, rfl⟩ := Option.map_eq_some_iff.mp found
    simp
  · rw [trace?_modifyTrace_of_ne _ _ (Ne.symm own)] at found
    rw [if_neg own]
    exact tracks t found

def storedAfter (decode : List UInt8 → Option Frame) (id : ReaderId) (s : Service) (last : Option Instant) :
    Command → Option Instant
  | .capture c place => if c.readerId = id ∧ (s.capture decode c place).2.1 = .stored then some c.receivedAt else last
  | .start x => if x = id ∧ id ∉ s.ids then none else last
  | .startAll (some listed) => if id ∈ listed ∧ id ∉ s.ids then none else last
  | .clear none => none
  | .clear (some x) => if x = id then none else last
  | _ => last

/-- The time of the last capture stored for `id` in a run of commands from `s`, since the trace
of `id` was last created or cleared, given that time before the run. -/
def lastStored (decode : List UInt8 → Option Frame) (id : ReaderId) :
    Service → Option Instant → List Command → Option Instant
  | _, last, [] => last
  | s, last, command :: rest => lastStored decode id (s.perform decode command) (storedAfter decode id s last command) rest

theorem capture_eq_self {s : Service} (invariant : Invariant s) {decode : List UInt8 → Option Frame} {c : Capture}
    {place : ReaderId → Nat} (outcome : (s.capture decode c place).2.1 ≠ .stored) : (s.capture decode c place).1 = s := by
  rcases capture_cases invariant decode c place with ⟨-, ignored⟩ | ⟨-, -, -, dropped⟩ | ⟨_, _, _, _, _, _, _, _, stored⟩
  · rw [ignored]
  · rw [dropped]
  · rw [stored] at outcome
    exact absurd rfl outcome

theorem capture_stored_built {s : Service} (invariant : Invariant s) {decode : List UInt8 → Option Frame}
    {c : Capture} {place : ReaderId → Nat} (outcome : (s.capture decode c place).2.1 = .stored) :
    ∃ t e, (c.readerId, t) ∈ s.readers ∧ buildEntry decode c t.cursor s.settings = .built e ∧
      s.capture decode c place = (s.storeEntry c.readerId e place, .stored, some ⟨c.readerId, e⟩) := by
  obtain ⟨on, active⟩ : s.settings.enabled = true ∧ c.readerId ∈ s.active := by
    rcases capture_cases invariant decode c place with ⟨-, ignored⟩ | ⟨on, active, -⟩ | ⟨-, -, -, on, active, -⟩
    · rw [ignored] at outcome
      cases outcome
    · exact ⟨on, active⟩
    · exact ⟨on, active⟩
  obtain ⟨t, member, captured⟩ := @capture_traced _ invariant decode _ place on active
  cases built : buildEntry decode c t.cursor s.settings with
  | dropped =>
    rw [captured, built] at outcome
    cases outcome
  | built e => exact ⟨t, e, member, built, by rw [captured, built]⟩

theorem CursorIs.capture {s : Service} (invariant : Invariant s) {id : ReaderId} {last : Option Instant}
    (tracks : CursorIs s id last) (decode : List UInt8 → Option Frame) (c : Capture) (place : ReaderId → Nat) :
    CursorIs (s.capture decode c place).1 id (storedAfter decode id s last (.capture c place)) := by
  -- only a stored capture changes the service, and it moves the cursor of its own reader only
  by_cases outcome : (s.capture decode c place).2.1 = .stored
  · obtain ⟨t, e, -, built, captured⟩ := capture_stored_built invariant outcome
    have time := (buildEntry_interval built).1
    have moved := tracks.storeEntry c.readerId e place
    rw [time] at moved
    simp only [storedAfter, outcome, and_true]
    rw [captured]
    exact moved
  · simp only [storedAfter, outcome, and_false, if_false]
    rw [capture_eq_self invariant outcome]
    exact tracks

theorem CursorIs.getD_fresh {s : Service} {id : ReaderId} {last : Option Instant} (tracks : CursorIs s id last)
    (settings : Settings) : ((s.trace? id).getD (ReaderTrace.fresh settings)).cursor = if id ∉ s.ids then none else last := by
  -- a known reader keeps its own trace and cursor; a new one starts with no cursor
  by_cases known : id ∈ s.ids
  · obtain ⟨u, present⟩ := Option.isSome_iff_exists.mp (trace?_isSome known)
    rw [present, Option.getD_some, if_neg (not_not.mpr known)]
    exact tracks u present
  · rw [trace?_eq_none.mpr known, Option.getD_none, if_pos known]
    rfl

theorem CursorIs.start {s : Service} (ascending : Ascending s.ids) {id : ReaderId} {last : Option Instant}
    (tracks : CursorIs s id last) (x : ReaderId) : CursorIs (s.start x) id (if x = id ∧ id ∉ s.ids then none else last) := by
  intro t found
  rw [trace?_start ascending] at found
  split_ifs at found with here
  · subst here
    rw [← Option.some.inj found, tracks.getD_fresh]
    simp
  · simp only [Ne.symm here, false_and, if_false]
    exact tracks t found

theorem CursorIs.foldl_start {s : Service} (ascending : Ascending s.ids) {id : ReaderId} {last : Option Instant}
    (tracks : CursorIs s id last) (listed : List ReaderId) :
    CursorIs (listed.foldl Service.start s) id (if id ∈ listed ∧ id ∉ s.ids then none else last) := by
  intro t found
  rw [trace?_foldl_start ascending] at found
  split_ifs at found with here
  · rw [← Option.some.inj found, tracks.getD_fresh]
    simp [here]
  · simp only [here, false_and, if_false]
    exact tracks t found

theorem CursorIs.clear {s : Service} {id : ReaderId} {last : Option Instant} (tracks : CursorIs s id last)
    (selected : Option ReaderId) :
    CursorIs (s.clear selected) id (if selected = none ∨ selected = some id then none else last) := by
  intro t found
  rw [trace?_clear] at found
  split_ifs at found with chosen
  · obtain ⟨u, -, rfl⟩ := Option.map_eq_some_iff.mp found
    simp [chosen, ReaderTrace.cleared]
  · simp only [chosen, if_false]
    exact tracks t found

theorem CursorIs.perform {s : Service} (invariant : Invariant s) {id : ReaderId} {last : Option Instant}
    (tracks : CursorIs s id last) (decode : List UInt8 → Option Frame) (command : Command) :
    CursorIs (s.perform decode command) id (storedAfter decode id s last command) := by
  cases command with
  | start x => exact tracks.start invariant.ascending x
  | stop x => exact tracks
  | startAll directory =>
    cases directory with
    | none => exact tracks
    | some listed => exact tracks.foldl_start invariant.ascending listed
  | stopAll => exact tracks
  | remove x =>
    -- forgetting `id` leaves it no trace to look up; forgetting another changes nothing of `id`
    intro t found
    change (s.remove x).trace? id = some t at found
    rw [trace?_remove invariant.ascending.nodup] at found
    split_ifs at found with here
    exact tracks t found
  | clear selected =>
    have moved := tracks.clear selected
    cases selected with
    | none =>
      show CursorIs (s.clear none) id none
      simpa using moved
    | some x =>
      show CursorIs (s.clear (some x)) id (if x = id then none else last)
      simpa using moved
  | capture c place => exact tracks.capture invariant decode c place
  | updateSettings settings place => exact tracks.of_cursors (cursors_updateSettings s settings place)
  | sweep now => exact tracks.of_cursors (cursors_sweep s now)

theorem CursorIs.run {s : Service} (invariant : Invariant s) {id : ReaderId} {last : Option Instant}
    (tracks : CursorIs s id last) (decode : List UInt8 → Option Frame) (commands : List Command) :
    CursorIs (s.run decode commands) id (lastStored decode id s last commands) := by
  induction commands generalizing s last with
  | nil => exact tracks
  | cons command rest ih => exact ih (invariant.perform decode command) (tracks.perform invariant decode command)

/-- In every reachable service, whatever order the reader map is visited in, an entry stored for
a reader at time `t` measures its interval,
in nanoseconds, from the last capture stored for that reader since its trace was last created
or cleared, as the history of commands and outcomes gives it: `max 0 (t - previous)`, and zero
when there is none. Entries dropped since then do not matter, nor do ignored or dropped
captures, stopping and restarting a reader that keeps its trace, or captures for other
readers. -/
theorem stored_entry_interval (decode : List UInt8 → Option Frame) (settings : Settings)
    (commands : List Command) (c : Capture) (place : ReaderId → Nat) :
    let s := (new settings).run decode commands
    (s.capture decode c place).2.1 = .stored →
      ∃ e, (s.capture decode c place).2.2 = some ⟨c.readerId, e⟩ ∧ e.timestamp = c.receivedAt ∧
        (e.interval.nanos : Int) = match lastStored decode c.readerId (new settings) none commands with
          | some previous => max 0 (c.receivedAt.spanFrom previous)
          | none => 0 := by
  intro s outcome
  have invariant : Invariant s := (invariant_new settings).run decode commands
  have tracks : CursorIs s c.readerId (lastStored decode c.readerId (new settings) none commands) :=
    CursorIs.run (invariant_new settings) (fun _ found => by simp [trace?, new] at found) decode commands
  obtain ⟨t, e, member, built, captured⟩ := capture_stored_built invariant outcome
  obtain ⟨time, interval⟩ := buildEntry_interval built
  refine ⟨e, by rw [captured], time, ?_⟩
  rw [interval, tracks t (trace?_of_mem invariant.ascending.nodup member)]
  cases lastStored decode c.readerId (new settings) none commands with
  | none => rfl
  | some previous =>
    simp only [Option.map_some, Option.getD_some, Instant.since]
    rw [Int.toNat_eq_max, max_comm]

theorem stored_entry_interval_after_stop_start :
    let commands : List Command :=
      [.start ⟨1⟩, .capture ⟨[1, 0, 0, 0x61], .panel, ⟨1⟩, "Lobby", ⟨10, 0⟩⟩ byId, .stop ⟨1⟩, .start ⟨1⟩]
    let s := (new Settings.default).run Frame.decodeFlagged commands
    let c : Capture := ⟨[1, 0, 0, 0x45], .reader, ⟨1⟩, "Lobby", ⟨10, 25000000⟩⟩
    (s.capture Frame.decodeFlagged c byId).2.1 = .stored ∧
      ∃ e, (s.capture Frame.decodeFlagged c byId).2.2 = some ⟨c.readerId, e⟩ ∧ e.timestamp = c.receivedAt ∧
        (e.interval.nanos : Int) = match lastStored Frame.decodeFlagged c.readerId (new Settings.default) none commands with
          | some previous => max 0 (c.receivedAt.spanFrom previous)
          | none => 0 :=
  ⟨rfl, stored_entry_interval Frame.decodeFlagged _ _ _ byId rfl⟩

end Service

end OsdpTrace
