import OsdpTrace.Proofs.Invariant

/-! Capturing a frame for a reader. A capture is ignored when tracing is off or the reader is not
being traced, dropped when the decoder refuses its bytes, and otherwise stored: the entry built
from the decoded frame is appended to the reader's buffer and becomes its cursor, and at most one
entry leaves the buffers, the head of the reader's own buffer when that was full, or the globally
oldest head when all buffers were at the global limit. That oldest head can be the new entry
itself: it is lost at once exactly when its buffer was empty, all buffers were at the limit, and
the visit of the reader map meets no older head, nor one as old before it. -/
namespace OsdpTrace

/-- What an entry built from a capture holds: the capture's reader, name, time and direction,
the security class of the decoded frame, and the decoded frame with the raw bytes and the payload
that the settings keep. -/
structure Entry.Records (e : Entry) (c : Capture) (frame : Frame) (settings : Settings) : Prop where
  readerId : e.readerId = c.readerId
  readerName : e.readerName = c.readerName
  timestamp : e.timestamp = c.receivedAt
  direction : e.direction = c.source.direction
  security : e.security = Security.ofFlags frame.isSecure frame.usesDefaultKey
  frame : e.frame = { frame with
    raw := if settings.captureRawData then some (frame.raw.getD c.bytes) else none
    payload := if settings.decodePayloads then frame.payload else [] }

theorem buildEntry_dropped {decode : List UInt8 → Option Frame} {c : Capture} {previous : Option Instant}
    {settings : Settings} : buildEntry decode c previous settings = .dropped ↔ decode c.bytes = none := by
  unfold buildEntry
  split <;> simp_all

theorem buildEntry_built {decode : List UInt8 → Option Frame} {c : Capture} {previous : Option Instant}
    {settings : Settings} {frame : Frame} (decoded : decode c.bytes = some frame) :
    ∃ e, buildEntry decode c previous settings = .built e ∧ e.Records c frame settings := by
  unfold buildEntry
  rw [decoded]
  refine ⟨_, rfl, rfl, rfl, rfl, rfl, ?_, ?_⟩
  · cases settings.decodePayloads <;> rfl
  · cases settings.decodePayloads <;> rfl

namespace Service

def appendEntry (s : Service) (id : ReaderId) (e : Entry) : Service :=
  s.modifyTrace id fun t =>
    { buffer := { t.buffer with entries := t.buffer.entries ++ [e] }.recomputeMemory, cursor := some e.timestamp }

def storeEntry (s : Service) (id : ReaderId) (e : Entry) (place : ReaderId → Nat) : Service :=
  ((s.modifyTrace id fun t => { buffer := (t.buffer.add e).1, cursor := some e.timestamp }).enforceGlobalLimit
    s.settings place).1

theorem capture_ignored {s : Service} {decode : List UInt8 → Option Frame} {c : Capture} {place : ReaderId → Nat}
    (off : s.settings.enabled = false ∨ c.readerId ∉ s.active) : s.capture decode c place = (s, .ignored, none) := by
  unfold Service.capture
  rw [if_pos]
  rcases off with disabled | inactive
  · simp [disabled]
  · simp [isTracing, inactive]

theorem capture_traced {s : Service} (invariant : Invariant s) {decode : List UInt8 → Option Frame} {c : Capture}
    {place : ReaderId → Nat} (on : s.settings.enabled = true) (active : c.readerId ∈ s.active) :
    ∃ t, (c.readerId, t) ∈ s.readers ∧ s.capture decode c place =
      match buildEntry decode c t.cursor s.settings with
      | .dropped => (s, .dropped, none)
      | .built e => (s.storeEntry c.readerId e place, .stored, some ⟨c.readerId, e⟩) := by
  obtain ⟨t, found⟩ := Option.isSome_iff_exists.mp (trace?_isSome (invariant.active_known _ active))
  refine ⟨t, trace?_eq_some found, ?_⟩
  unfold Service.capture
  rw [if_neg (by simp [on, isTracing, active]), found]
  rfl

theorem capture_dropped {s : Service} (invariant : Invariant s) {decode : List UInt8 → Option Frame} {c : Capture}
    {place : ReaderId → Nat} (on : s.settings.enabled = true) (active : c.readerId ∈ s.active)
    (refused : decode c.bytes = none) : s.capture decode c place = (s, .dropped, none) := by
  obtain ⟨t, -, captured⟩ := @capture_traced _ invariant decode _ place on active
  rw [captured, buildEntry_dropped.mpr refused]

theorem capture_stored {s : Service} (invariant : Invariant s) {decode : List UInt8 → Option Frame} {c : Capture}
    {place : ReaderId → Nat} (on : s.settings.enabled = true) (active : c.readerId ∈ s.active) {frame : Frame}
    (decoded : decode c.bytes = some frame) :
    ∃ t e, (c.readerId, t) ∈ s.readers ∧ e.Records c frame s.settings ∧
      s.capture decode c place = (s.storeEntry c.readerId e place, .stored, some ⟨c.readerId, e⟩) := by
  obtain ⟨t, member, captured⟩ := @capture_traced _ invariant decode _ place on active
  obtain ⟨e, built, records⟩ := @buildEntry_built decode _ t.cursor s.settings _ decoded
  refine ⟨t, e, member, records, ?_⟩
  rw [captured, built]

/-- Every capture in a service meeting the invariant is ignored, dropped or stored, each under
its own condition and with its own result. -/
theorem capture_cases {s : Service} (invariant : Invariant s) (decode : List UInt8 → Option Frame) (c : Capture)
    (place : ReaderId → Nat) :
    ((s.settings.enabled = false ∨ c.readerId ∉ s.active) ∧ s.capture decode c place = (s, .ignored, none)) ∨
    (s.settings.enabled = true ∧ c.readerId ∈ s.active ∧ decode c.bytes = none ∧
      s.capture decode c place = (s, .dropped, none)) ∨
    (∃ frame t e, s.settings.enabled = true ∧ c.readerId ∈ s.active ∧ decode c.bytes = some frame ∧
      (c.readerId, t) ∈ s.readers ∧ e.Records c frame s.settings ∧
      s.capture decode c place = (s.storeEntry c.readerId e place, .stored, some ⟨c.readerId, e⟩)) := by
  by_cases off : s.settings.enabled = false ∨ c.readerId ∉ s.active
  · exact Or.inl ⟨off, capture_ignored off⟩
  · have on : s.settings.enabled = true := by simpa using (not_or.mp off).1
    have active : c.readerId ∈ s.active := by simpa using (not_or.mp off).2
    cases decoded : decode c.bytes with
    | none => exact Or.inr (Or.inl ⟨on, active, rfl, capture_dropped invariant on active decoded⟩)
    | some frame =>
      obtain ⟨t, e, member, records, captured⟩ := capture_stored invariant on active decoded
      exact Or.inr (Or.inr ⟨frame, t, e, on, active, rfl, member, records, captured⟩)

theorem total_appendEntry {s : Service} (nodup : s.ids.Nodup) {id : ReaderId} {t : ReaderTrace}
    (member : (id, t) ∈ s.readers) (e : Entry) : (s.appendEntry id e).total = s.total + 1 := by
  have changed : (s.appendEntry id e).total + t.buffer.entries.length =
      s.total + (t.buffer.entries ++ [e]).length :=
    total_modifyTrace _ nodup member
  rw [List.length_append, List.length_singleton] at changed
  omega

/-- Storing an entry for a reader within the invariant appends it, then drops one head: the
reader's own when its buffer was full, else the globally oldest one when all buffers were at the
limit, else none. -/
theorem storeEntry_cases {s : Service} (invariant : Invariant s) {id : ReaderId} {t : ReaderTrace}
    (member : (id, t) ∈ s.readers) (e : Entry) (place : ReaderId → Nat) :
    (t.buffer.entries.length = t.buffer.limits.capacity ∧
      s.storeEntry id e place = (s.appendEntry id e).evictHead id) ∨
    (t.buffer.entries.length < t.buffer.limits.capacity ∧ s.total < s.settings.globalLimit ∧
      s.storeEntry id e place = s.appendEntry id e) ∨
    (t.buffer.entries.length < t.buffer.limits.capacity ∧ s.total = s.settings.globalLimit ∧
      s.storeEntry id e place = match (s.appendEntry id e).oldestReader? place with
        | some q => (s.appendEntry id e).evictHead q
        | none => s.appendEntry id e) := by
  have nodup := invariant.ascending.nodup
  have within := invariant.within_global
  have unique : ∀ p ∈ s.readers, p.1 = id → p.2 = t := fun p present key => trace_unique nodup member present key
  rcases Buffer.add_eq_append_or_evict t.buffer e (invariant.within_capacity _ member) with ⟨room, appended⟩ | ⟨full, evicted⟩
  · have added : (s.modifyTrace id fun t => { buffer := (t.buffer.add e).1, cursor := some e.timestamp }) =
        s.appendEntry id e := by
      apply modifyTrace_congr
      intro p present key
      rw [unique p present key, appended]
    have grown := total_appendEntry nodup member e
    rcases Nat.lt_or_eq_of_le within with below | at_limit
    · refine Or.inr (Or.inl ⟨room, below, ?_⟩)
      unfold storeEntry
      rw [added, enforceGlobalLimit_of_le (by rw [grown]; omega)]
    · refine Or.inr (Or.inr ⟨room, at_limit, ?_⟩)
      unfold storeEntry
      rw [added]
      exact enforceGlobalLimit_of_eq_succ (by rw [grown, at_limit]) place
  · have added : (s.modifyTrace id fun t => { buffer := (t.buffer.add e).1, cursor := some e.timestamp }) =
        (s.appendEntry id e).evictHead id := by
      unfold evictHead appendEntry
      rw [modifyTrace_modifyTrace]
      apply modifyTrace_congr
      intro p present key
      rw [unique p present key, evicted]
      rfl
    have same : ((s.appendEntry id e).evictHead id).total = s.total := by
      have changed := total_modifyTrace (fun t => { buffer := (t.buffer.add e).1, cursor := some e.timestamp })
        nodup member
      have length := (Buffer.add_drops t.buffer e).length_add
      simp only [Buffer.add_count, List.length_append, List.length_singleton] at length changed
      rw [← added]
      omega
    refine Or.inl ⟨full, ?_⟩
    unfold storeEntry
    rw [added, enforceGlobalLimit_of_le (by rw [same]; exact within)]

theorem storeEntry_eq {s : Service} (invariant : Invariant s) {id : ReaderId} {t : ReaderTrace}
    (member : (id, t) ∈ s.readers) (e : Entry) (place : ReaderId → Nat) :
    s.storeEntry id e place = s.appendEntry id e ∨
      ∃ q, s.storeEntry id e place = (s.appendEntry id e).evictHead q := by
  rcases storeEntry_cases invariant member e place with ⟨-, evicted⟩ | ⟨-, -, appended⟩ | ⟨-, -, stored⟩
  · exact Or.inr ⟨id, evicted⟩
  · exact Or.inl appended
  · rw [stored]
    split
    · exact Or.inr ⟨_, rfl⟩
    · exact Or.inl rfl

/-- For every reachable service and whatever order the reader map is visited in, a capture is
ignored exactly when tracing is off or the reader is not being traced, dropped exactly when it is
traced and the decoder refuses the bytes, and stored otherwise. Ignored and dropped captures change
nothing and announce nothing. A stored capture announces one entry built from the decoded frame,
appends it to the reader's buffer as the reader's cursor, and drops at most one head of a buffer. -/
theorem capture_contract (decode : List UInt8 → Option Frame) (settings : Settings) (commands : List Command)
    (c : Capture) (place : ReaderId → Nat) :
    let s := (new settings).run decode commands
    ((s.capture decode c place).2.1 = .ignored ↔ s.settings.enabled = false ∨ c.readerId ∉ s.active) ∧
    ((s.capture decode c place).2.1 = .dropped ↔
      s.settings.enabled = true ∧ c.readerId ∈ s.active ∧ decode c.bytes = none) ∧
    ((s.capture decode c place).2.1 ≠ .stored →
      (s.capture decode c place).1 = s ∧ (s.capture decode c place).2.2 = none) ∧
    ((s.capture decode c place).2.1 = .stored → ∃ frame e, decode c.bytes = some frame ∧
      e.Records c frame s.settings ∧ (s.capture decode c place).2.2 = some ⟨c.readerId, e⟩ ∧
      ((s.capture decode c place).1 = s.appendEntry c.readerId e ∨
        ∃ q, (s.capture decode c place).1 = (s.appendEntry c.readerId e).evictHead q)) := by
  intro s
  have invariant : Invariant s := (invariant_new settings).run decode commands
  rcases capture_cases invariant decode c place with ⟨off, ignored⟩ | ⟨on, active, refused, dropped⟩ |
    ⟨frame, t, e, on, active, decoded, member, records, stored⟩
  · rw [ignored]
    have traced : ¬(s.settings.enabled = true ∧ c.readerId ∈ s.active) := by
      rintro ⟨on, active⟩
      rcases off with disabled | inactive
      · simp [on] at disabled
      · exact inactive active
    refine ⟨iff_of_true rfl off, iff_of_false (by simp) fun ⟨on, active, _⟩ => traced ⟨on, active⟩,
      fun _ => ⟨rfl, rfl⟩, fun stored => absurd stored (by simp)⟩
  · rw [dropped]
    simp [on, active, refused]
  · rw [stored]
    refine ⟨by simp [on, active], by simp [decoded], by simp, fun _ => ⟨frame, e, decoded, records, rfl, ?_⟩⟩
    exact storeEntry_eq invariant member e place

theorem last_appendEntry {s : Service} {id : ReaderId} {t : ReaderTrace} (found : s.trace? id = some t) (e : Entry) :
    ((s.appendEntry id e).trace? id).bind (·.buffer.last?) = some e := by
  simp [appendEntry, trace?_modifyTrace_self, found, Buffer.last?]

theorem last_evictHead_appendEntry {s : Service} {id : ReaderId} {t : ReaderTrace} (found : s.trace? id = some t)
    (e : Entry) :
    (((s.appendEntry id e).evictHead id).trace? id).bind (·.buffer.last?) =
      if t.buffer.entries = [] then none else some e := by
  simp only [evictHead, appendEntry, trace?_modifyTrace_self, found, Option.map_some, Option.bind_some,
    Buffer.last?, Buffer.evictOldest, Buffer.recomputeMemory_entries, List.getLast?_drop]
  by_cases empty : t.buffer.entries = [] <;> simp [empty, Buffer.length]

theorem split_unique {l before after before' after' : List (ReaderId × ReaderTrace)} {id : ReaderId}
    {t t' : ReaderTrace} (nodup : (l.map Prod.fst).Nodup) (split : l = before ++ (id, t) :: after)
    (split' : l = before' ++ (id, t') :: after') : before = before' ∧ t = t' ∧ after = after' := by
  subst split
  simp only [List.map_append, List.map_cons, List.nodup_append, List.nodup_cons] at nodup
  have absent : ∀ l : List (ReaderId × ReaderTrace), id ∉ l.map Prod.fst → (id, t') ∉ l :=
    fun l fresh member => fresh (List.mem_map.mpr ⟨_, member, rfl⟩)
  have notBefore : id ∉ before.map Prod.fst := fun member => nodup.2.2 id member id List.mem_cons_self rfl
  obtain ⟨same, pair, rest⟩ := (List.append_cons_inj_of_notMem (absent _ notBefore) (absent _ nodup.2.1.1)).mp split'
  exact ⟨same, (Prod.mk.inj pair).2, rest⟩

/-- A head for `id` at `time` would be the one the global limit drops: the visit of the readers
meets `id` after readers whose heads are all younger than `time`, and before readers whose heads
are none older. -/
def OldestAt (s : Service) (id : ReaderId) (time : Instant) (place : ReaderId → Nat) : Prop :=
  ∃ before t after, s.visit place = before ++ (id, t) :: after ∧
    (∀ p ∈ before, ∀ h ∈ p.2.buffer.oldest?, time < h) ∧ ∀ p ∈ after, ∀ h ∈ p.2.buffer.oldest?, time ≤ h

/-- A new entry for `id` captured at `time` is lost at once to the global limit: the buffer of
`id` is empty, all buffers together are at the limit, and the new head is the one the global limit
drops. -/
def LosesNew (s : Service) (id : ReaderId) (time : Instant) (place : ReaderId → Nat) : Prop :=
  (∃ t, (id, t) ∈ s.readers ∧ t.buffer.entries = []) ∧ s.total = s.settings.globalLimit ∧ s.OldestAt id time place

theorem forall_mem_heads_of {l : List (ReaderId × ReaderTrace)} {q : Instant → Prop} :
    (∀ y ∈ l.filterMap (fun p => p.2.buffer.oldest?.map fun t => (p.1, t)), q y.2) ↔
      ∀ p ∈ l, ∀ h ∈ p.2.buffer.oldest?, q h := by
  simp only [List.mem_filterMap, Option.map_eq_some_iff, Option.mem_def]
  constructor
  · intro all p member h oldest
    exact all (p.1, h) ⟨p, member, h, oldest, rfl⟩
  · rintro all y ⟨p, member, h, oldest, rfl⟩
    exact all p member h oldest

theorem heads_appendEntry {s : Service} {id : ReaderId} {t : ReaderTrace} {place : ReaderId → Nat}
    {before after : List (ReaderId × ReaderTrace)} (nodup : s.ids.Nodup)
    (split : s.visit place = before ++ (id, t) :: after) (empty : t.buffer.entries = []) (e : Entry) :
    (s.appendEntry id e).heads place =
      before.filterMap (fun p => p.2.buffer.oldest?.map fun t => (p.1, t)) ++ (id, e.timestamp) ::
        after.filterMap (fun p => p.2.buffer.oldest?.map fun t => (p.1, t)) := by
  have keys := visit_ids_nodup nodup place
  rw [split] at keys
  simp only [List.map_append, List.map_cons, List.nodup_append, List.nodup_cons] at keys
  have notBefore : id ∉ before.map Prod.fst := fun member => keys.2.2 id member id List.mem_cons_self rfl
  let append := fun t : ReaderTrace =>
    ({ buffer := { t.buffer with entries := t.buffer.entries ++ [e] }.recomputeMemory, cursor := some e.timestamp } :
      ReaderTrace)
  rw [heads, appendEntry, visit_modifyTrace, split, List.map_append, List.map_cons,
    map_update_of_not_mem append notBefore, map_update_of_not_mem append keys.2.1.1, List.filterMap_append,
    List.filterMap_cons]
  simp [Buffer.oldest?, empty]

theorem oldestReader?_appendEntry {s : Service} (invariant : Invariant s) {id : ReaderId} {t : ReaderTrace}
    (member : (id, t) ∈ s.readers) (empty : t.buffer.entries = []) (e : Entry) (place : ReaderId → Nat) :
    (s.appendEntry id e).oldestReader? place = some id ↔ s.OldestAt id e.timestamp place := by
  have nodup := invariant.ascending.nodup
  obtain ⟨before, after, split⟩ := List.append_of_mem (mem_visit.mpr member)
  have keys := visit_ids_nodup nodup place
  -- the other heads carry other ids, so the new head sits at one place among them
  have other : ∀ l : List (ReaderId × ReaderTrace), id ∉ l.map Prod.fst → ∀ time,
      (id, time) ∉ l.filterMap (fun p => p.2.buffer.oldest?.map fun t => (p.1, t)) := by
    intro l fresh time present
    obtain ⟨p, inside, h, -, same⟩ := by simpa only [List.mem_filterMap, Option.map_eq_some_iff] using present
    exact fresh (List.mem_map.mpr ⟨p, inside, congrArg Prod.fst same⟩)
  have parts := keys
  rw [split] at parts
  simp only [List.map_append, List.map_cons, List.nodup_append, List.nodup_cons] at parts
  have notBefore : id ∉ before.map Prod.fst := fun inside => parts.2.2 id inside id List.mem_cons_self rfl
  rw [oldestReader?_eq_some, heads_appendEntry nodup split empty e]
  constructor
  · rintro ⟨time, b, a, split', younger, notOlder⟩
    obtain ⟨rfl, same, rfl⟩ :=
      (List.append_cons_inj_of_notMem (other _ notBefore time) (other _ parts.2.1.1 time)).mp split'
    cases same
    exact ⟨before, t, after, split, forall_mem_heads_of.mp younger, forall_mem_heads_of.mp notOlder⟩
  · rintro ⟨b, u, a, split', younger, notOlder⟩
    obtain ⟨rfl, -, rfl⟩ := split_unique keys split' split
    exact ⟨e.timestamp, _, _, rfl, forall_mem_heads_of.mpr younger, forall_mem_heads_of.mpr notOlder⟩

theorem LosesNew.empty {s : Service} (nodup : s.ids.Nodup) {id : ReaderId} {t : ReaderTrace} {time : Instant}
    {place : ReaderId → Nat} (member : (id, t) ∈ s.readers) (loses : LosesNew s id time place) :
    t.buffer.entries = [] := by
  obtain ⟨⟨u, present, empty⟩, -⟩ := loses
  have same : u = t := trace_unique nodup member present rfl
  rwa [same] at empty

theorem LosesNew.oldestReader?_eq {s : Service} (invariant : Invariant s) {id : ReaderId} {e : Entry}
    {place : ReaderId → Nat} (loses : LosesNew s id e.timestamp place) :
    (s.appendEntry id e).oldestReader? place = some id := by
  obtain ⟨⟨t, member, empty⟩, -, oldest⟩ := loses
  exact (oldestReader?_appendEntry invariant member empty e place).mpr oldest

theorem storeEntry_keeps_iff {s : Service} (invariant : Invariant s) {id : ReaderId} {t : ReaderTrace}
    (member : (id, t) ∈ s.readers) (e : Entry) (place : ReaderId → Nat) :
    ((s.storeEntry id e place).trace? id).bind (·.buffer.last?) = some e ↔ ¬LosesNew s id e.timestamp place := by
  have nodup := invariant.ascending.nodup
  have found := trace?_of_mem nodup member
  rcases storeEntry_cases invariant member e place with ⟨full, stored⟩ | ⟨-, below, stored⟩ | ⟨-, at_limit, stored⟩
  · -- a full buffer drops its own head, never the new entry
    have nonempty : t.buffer.entries ≠ [] := by
      intro empty
      have := Limits.capacity_pos t.buffer.limits
      rw [empty] at full
      simp only [List.length_nil] at full
      omega
    rw [stored, last_evictHead_appendEntry found, if_neg nonempty]
    exact iff_of_true rfl fun loses => nonempty (loses.empty nodup member)
  · rw [stored, last_appendEntry found]
    exact iff_of_true rfl fun loses => absurd loses.2.1 (Nat.ne_of_lt below)
  · rw [stored]
    cases chosen : (s.appendEntry id e).oldestReader? place with
    | none =>
      refine iff_of_true (last_appendEntry found e) fun loses => ?_
      rw [loses.oldestReader?_eq invariant] at chosen
      cases chosen
    | some q =>
      by_cases same : q = id
      · subst same
        show (((s.appendEntry q e).evictHead q).trace? q).bind (·.buffer.last?) = some e ↔ _
        rw [last_evictHead_appendEntry found]
        by_cases empty : t.buffer.entries = []
        · -- the new entry was the only one, and the globally oldest
          have oldest := (oldestReader?_appendEntry invariant member empty e place).mp chosen
          rw [if_pos empty]
          exact iff_of_false (by simp) (not_not.mpr ⟨⟨t, member, empty⟩, at_limit, oldest⟩)
        · rw [if_neg empty]
          exact iff_of_true rfl fun loses => empty (loses.empty nodup member)
      · show (((s.appendEntry id e).evictHead q).trace? id).bind (·.buffer.last?) = some e ↔ _
        rw [evictHead, trace?_modifyTrace_of_ne _ _ (Ne.symm same)]
        refine iff_of_true (last_appendEntry found e) fun loses => ?_
        rw [loses.oldestReader?_eq invariant] at chosen
        exact same (Option.some.inj chosen).symm

/-- In every reachable service and whatever order the reader map is visited in, a stored capture
announces its entry, and the entry ends the reader's buffer unless the global limit drops it at
once: when the reader's buffer was empty, all buffers together were at the global limit, and the
visit meets no head older than the entry, nor one as old before the reader. -/
theorem capture_keeps_entry_iff (decode : List UInt8 → Option Frame) (settings : Settings)
    (commands : List Command) (c : Capture) (place : ReaderId → Nat) :
    let s := (new settings).run decode commands
    (s.capture decode c place).2.1 = .stored →
      ∃ e, (s.capture decode c place).2.2 = some ⟨c.readerId, e⟩ ∧
        ((((s.capture decode c place).1.trace? c.readerId).bind (·.buffer.last?) = some e) ↔
          ¬LosesNew s c.readerId e.timestamp place) := by
  intro s outcome
  have invariant : Invariant s := (invariant_new settings).run decode commands
  rcases capture_cases invariant decode c place with ⟨-, ignored⟩ | ⟨-, -, -, dropped⟩ |
    ⟨frame, t, e, -, -, -, member, -, stored⟩
  · rw [ignored] at outcome
    cases outcome
  · rw [dropped] at outcome
    cases outcome
  · rw [stored]
    exact ⟨e, rfl, storeEntry_keeps_iff invariant member e place⟩

theorem capture_keeps_entry_iff_low_memory :
    let s := (new { Settings.default with memoryLimitBytes := 100 }).run Frame.decodeFlagged
      [.start ⟨1⟩, .start ⟨2⟩, .capture ⟨[1, 0, 0, 0x60], .panel, ⟨1⟩, "A", ⟨10, 0⟩⟩ byId]
    let c : Capture := ⟨[1, 0, 0, 0x60], .panel, ⟨2⟩, "B", ⟨5, 0⟩⟩
    (s.capture Frame.decodeFlagged c byId).2.1 = .stored ∧
      ∃ e, (s.capture Frame.decodeFlagged c byId).2.2 = some ⟨c.readerId, e⟩ ∧
        ((((s.capture Frame.decodeFlagged c byId).1.trace? c.readerId).bind (·.buffer.last?) = some e) ↔
          ¬LosesNew s c.readerId e.timestamp byId) :=
  ⟨rfl, capture_keeps_entry_iff Frame.decodeFlagged _ _ _ byId rfl⟩

/-- With room for one entry in all buffers together, an entry for a second reader older than the
first reader's only entry is stored, and dropped at once: the reader's buffer stays empty. -/
theorem stored_entry_dropped_at_once :
    let s := (new { Settings.default with memoryLimitBytes := 100 }).run Frame.decodeFlagged
      [.start ⟨1⟩, .start ⟨2⟩, .capture ⟨[1, 0, 0, 0x60], .panel, ⟨1⟩, "A", ⟨10, 0⟩⟩ byId]
    let c : Capture := ⟨[1, 0, 0, 0x60], .panel, ⟨2⟩, "B", ⟨5, 0⟩⟩
    (s.capture Frame.decodeFlagged c byId).2.1 = .stored ∧
      ((s.capture Frame.decodeFlagged c byId).1.trace? c.readerId).bind (·.buffer.last?) = none :=
  ⟨rfl, by decide⟩

end Service

end OsdpTrace
