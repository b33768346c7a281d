import OsdpTrace.Proofs.GlobalLimit
import OsdpTrace.Trace.Command

/-! What every reachable trace service keeps. The readers being traced all have a trace, every
buffer is under the limits of the settings in force, within their capacity and with its memory
estimate at 192 bytes an entry, and all buffers together are within the global limit. Operations
that only drop entries keep this as it is; starting a reader adds an empty buffer under the
current limits; a capture and a change of settings may break the global limit, and each ends by
enforcing it again. The memory estimates stay exact because every buffer operation sets its
estimate anew, except clearing, which leaves no entry and an estimate of zero, and a sweep
without a cutoff, which changes nothing. -/
namespace OsdpTrace

namespace Service

def MemoryExact (s : Service) : Prop := ∀ p ∈ s.readers, p.2.buffer.Exact

/-- What a service keeps between operations, the global limit apart. -/
structure Consistent (s : Service) : Prop where
  ascending : Ascending s.ids
  active_known : ∀ id ∈ s.active, id ∈ s.ids
  limits_current : ∀ p ∈ s.readers, p.2.buffer.limits = Limits.ofSettings s.settings
  within_capacity : ∀ p ∈ s.readers, p.2.buffer.length ≤ p.2.buffer.limits.capacity
  memory_exact : s.MemoryExact

/-- What every reachable service keeps. -/
structure Invariant (s : Service) : Prop extends Consistent s where
  within_global : s.total ≤ s.settings.globalLimit

theorem MemoryExact.modifyTrace {s : Service} (exact : s.MemoryExact) (id : ReaderId) {f : ReaderTrace → ReaderTrace}
    (keeps : ∀ t, t.buffer.Exact → (f t).buffer.Exact) : (s.modifyTrace id f).MemoryExact := by
  intro q member
  obtain ⟨p, present, -, same | changed⟩ := mem_modifyTrace member
  · rw [same]
    exact exact p present
  · rw [changed]
    exact keeps p.2 (exact p present)

theorem MemoryExact.modifyTraces {s : Service} (exact : s.MemoryExact) {f : ReaderTrace → ReaderTrace}
    (keeps : ∀ t, t.buffer.Exact → (f t).buffer.Exact) : (s.modifyTraces f).MemoryExact := by
  intro q member
  obtain ⟨p, present, rfl⟩ := mem_modifyTraces member
  exact keeps p.2 (exact p present)

theorem MemoryExact.evictGlobally {s : Service} (exact : s.MemoryExact) (place : ReaderId → Nat) (n : Nat) :
    (s.evictGlobally place n).MemoryExact := by
  induction n generalizing s with
  | zero => exact exact
  | succ n ih =>
    rw [evictGlobally_succ]
    split
    · exact ih (exact.modifyTrace _ fun t _ => Buffer.exact_evictOldest t.buffer 1)
    · exact exact

theorem Consistent.of_trims {s' s : Service} (consistent : Consistent s) (trims : Trims s' s)
    (exact : s'.MemoryExact) : Consistent s' := by
  refine ⟨?_, ?_, ?_, ?_, exact⟩
  · rw [trims.ids]
    exact consistent.ascending
  · intro id member
    rw [trims.ids]
    exact consistent.active_known id (trims.active ▸ member)
  · intro q member
    obtain ⟨p, present, -, shorter⟩ := trims.mem member
    rw [shorter.1, trims.settings]
    exact consistent.limits_current p present
  · intro q member
    obtain ⟨p, present, -, shorter⟩ := trims.mem member
    have bounded := consistent.within_capacity p present
    rw [shorter.1]
    exact le_trans shorter.length_le bounded

theorem Invariant.of_trims {s' s : Service} (invariant : Invariant s) (trims : Trims s' s)
    (exact : s'.MemoryExact) : Invariant s' where
  toConsistent := invariant.toConsistent.of_trims trims exact
  within_global := by
    rw [trims.settings]
    exact trims.total_le.trans invariant.within_global

theorem Consistent.enforce {s : Service} (consistent : Consistent s) (place : ReaderId → Nat) :
    Invariant (s.enforceGlobalLimit s.settings place).1 where
  toConsistent := consistent.of_trims (trims_enforceGlobalLimit s _ place) (consistent.memory_exact.evictGlobally place _)
  within_global := by
    rw [(trims_enforceGlobalLimit s _ place).settings, enforceGlobalLimit_total consistent.ascending.nodup]
    omega

theorem Consistent.modifyTrace {s : Service} (consistent : Consistent s) (id : ReaderId)
    {f : ReaderTrace → ReaderTrace} (limits : ∀ t, (f t).buffer.limits = t.buffer.limits)
    (bounded : ∀ t, (f t).buffer.entries.length ≤ t.buffer.limits.capacity)
    (exact : ∀ t, (f t).buffer.Exact) : Consistent (s.modifyTrace id f) := by
  refine ⟨?_, ?_, ?_, ?_, consistent.memory_exact.modifyTrace id fun t _ => exact t⟩
  · rw [ids_modifyTrace]
    exact consistent.ascending
  · intro x member
    rw [ids_modifyTrace]
    exact consistent.active_known x member
  · intro q member
    obtain ⟨p, present, -, same | changed⟩ := mem_modifyTrace member
    · rw [same]
      exact consistent.limits_current p present
    · rw [changed, limits]
      exact consistent.limits_current p present
  · intro q member
    obtain ⟨p, present, -, same | changed⟩ := mem_modifyTrace member
    · rw [same]
      exact consistent.within_capacity p present
    · rw [changed, limits]
      exact bounded p.2

theorem invariant_new (settings : Settings) : Invariant (new settings) where
  ascending := List.Pairwise.nil
  active_known := by simp [new]
  limits_current := by simp [new]
  within_capacity := by simp [new]
  memory_exact := by simp [new, MemoryExact]
  within_global := Nat.zero_le _

theorem mem_start {s : Service} {id : ReaderId} {q : ReaderId × ReaderTrace} (member : q ∈ (s.start id).readers) :
    q = (id, ⟨Buffer.empty (Limits.ofSettings s.settings), none⟩) ∨ q ∈ s.readers := by
  rcases insertTrace_eq_or_perm id ⟨Buffer.empty (Limits.ofSettings s.settings), none⟩ s.readers with same | moved
  · exact Or.inr (by simpa [start, same] using member)
  · exact List.mem_cons.mp (moved.mem_iff.mp member)

theorem total_start (s : Service) (id : ReaderId) : (s.start id).total = s.total := by
  rcases insertTrace_eq_or_perm id ⟨Buffer.empty (Limits.ofSettings s.settings), none⟩ s.readers with same | moved
  · simp [start, total, same]
  · simp only [total_eq_sum, start]
    rw [(moved.map _).sum_nat]
    simp

theorem Invariant.start {s : Service} (invariant : Invariant s) (id : ReaderId) : Invariant (s.start id) := by
  have keys : (s.start id).ids = insertId id s.ids := keys_insertTrace _ _ _
  refine ⟨⟨?_, ?_, ?_, ?_, ?_⟩, ?_⟩
  · rw [keys]
    exact insertId_ascending invariant.ascending
  · intro x member
    rw [keys, mem_insertId]
    rcases mem_insertId.mp member with fresh | old
    · exact Or.inl fresh
    · exact Or.inr (invariant.active_known x old)
  · intro q member
    rcases mem_start member with rfl | old
    · rfl
    · exact invariant.limits_current q old
  · intro q member
    rcases mem_start member with rfl | old
    · simp
    · exact invariant.within_capacity q old
  · intro q member
    rcases mem_start member with rfl | old
    · exact Buffer.exact_empty _
    · exact invariant.memory_exact q old
  · rw [total_start]
    exact invariant.within_global

theorem Invariant.stop {s : Service} (invariant : Invariant s) (id : ReaderId) : Invariant (s.stop id) where
  toConsistent := { invariant.toConsistent with
    active_known := fun x member => invariant.active_known x (List.mem_of_mem_filter member) }
  within_global := invariant.within_global

theorem Invariant.stopAll {s : Service} (invariant : Invariant s) : Invariant s.stopAll where
  toConsistent := { invariant.toConsistent with active_known := fun _ member => (List.not_mem_nil member).elim }
  within_global := invariant.within_global

theorem Invariant.startAll {s : Service} (invariant : Invariant s) (directory : Option (List ReaderId)) :
    Invariant (s.startAll directory).1 := by
  cases directory with
  | none => exact invariant
  | some listed =>
    show Invariant (listed.foldl Service.start s)
    induction listed generalizing s with
    | nil => exact invariant
    | cons id rest ih => exact ih (invariant.start id)

theorem Invariant.remove {s : Service} (invariant : Invariant s) (id : ReaderId) : Invariant (s.remove id) := by
  have kept : List.Sublist (s.remove id).readers s.readers := List.filter_sublist
  refine ⟨⟨?_, ?_, ?_, ?_, ?_⟩, ?_⟩
  · exact invariant.ascending.sublist (kept.map Prod.fst)
  · intro x member
    change x ∈ s.active.filter (· != id) at member
    simp only [List.mem_filter, bne_iff_ne, ne_eq] at member
    obtain ⟨p, present, rfl⟩ := List.mem_map.mp (invariant.active_known x member.1)
    exact List.mem_map.mpr ⟨p, List.mem_filter.mpr ⟨present, by simpa using member.2⟩, rfl⟩
  · exact fun q member => invariant.limits_current q (kept.subset member)
  · exact fun q member => invariant.within_capacity q (kept.subset member)
  · exact fun q member => invariant.memory_exact q (kept.subset member)
  · have smaller : (s.remove id).total ≤ s.total :=
      (kept.map _).sum_le_sum fun _ _ => Nat.zero_le _
    exact smaller.trans invariant.within_global

theorem trims_clear (s : Service) (id : Option ReaderId) : Trims (s.clear id) s := by
  have emptied : ∀ t : ReaderTrace, TrimsTrace { buffer := t.buffer.clear, cursor := none } t :=
    fun t => ⟨rfl, List.nil_suffix⟩
  cases id with
  | some id => exact trims_modifyTrace s id emptied
  | none => exact trims_modifyTraces s emptied

theorem sweep_eq_modifyTraces (s : Service) (now : Instant) :
    (s.sweep now).1 = s.modifyTraces fun t => { t with buffer := (t.buffer.sweep now).1 } := by
  simp only [sweep, modifyTraces, List.map_map]
  rfl

theorem trims_sweep (s : Service) (now : Instant) : Trims (s.sweep now).1 s := by
  rw [sweep_eq_modifyTraces]
  exact trims_modifyTraces s fun t => ⟨Buffer.sweep_limits t.buffer now, (Buffer.sweep_drops t.buffer now).suffix⟩

theorem MemoryExact.clear {s : Service} (exact : s.MemoryExact) (id : Option ReaderId) : (s.clear id).MemoryExact := by
  cases id with
  | some id => exact exact.modifyTrace id fun t _ => Buffer.exact_clear t.buffer
  | none => exact exact.modifyTraces fun t _ => Buffer.exact_clear t.buffer

theorem MemoryExact.sweep {s : Service} (exact : s.MemoryExact) (now : Instant) : (s.sweep now).1.MemoryExact := by
  rw [sweep_eq_modifyTraces]
  exact exact.modifyTraces fun _ buffer => buffer.sweep now

theorem Invariant.capture {s : Service} (invariant : Invariant s) (decode : List UInt8 → Option Frame)
    (c : Capture) (place : ReaderId → Nat) : Invariant (s.capture decode c place).1 := by
  unfold Service.capture
  split
  · exact invariant
  · split
    · exact invariant
    · split
      · exact invariant
      · rename_i e _
        apply Consistent.enforce
        exact invariant.toConsistent.modifyTrace c.readerId (fun t => Buffer.add_limits t.buffer e)
          (fun t => Buffer.add_length_le t.buffer e) (fun t => Buffer.exact_add t.buffer e)

theorem Invariant.updateSettings {s : Service} (invariant : Invariant s) (settings : Settings)
    (place : ReaderId → Nat) : Invariant (s.updateSettings settings place) := by
  let applied := { s with settings := settings }.modifyTraces
    fun t => { t with buffer := (t.buffer.applyLimits (Limits.ofSettings settings)).1 }
  have consistent : Consistent applied := by
    refine ⟨?_, ?_, ?_, ?_, ?_⟩
    · show Ascending applied.ids
      rw [ids_modifyTraces]
      exact invariant.ascending
    · intro x member
      show x ∈ applied.ids
      rw [ids_modifyTraces]
      exact invariant.active_known x member
    · intro q member
      obtain ⟨p, -, rfl⟩ := mem_modifyTraces member
      rfl
    · intro q member
      obtain ⟨p, -, rfl⟩ := mem_modifyTraces member
      exact Buffer.applyLimits_length_le p.2.buffer _
    · intro q member
      obtain ⟨p, -, rfl⟩ := mem_modifyTraces member
      exact Buffer.exact_applyLimits p.2.buffer _
  exact consistent.enforce place

theorem Invariant.perform {s : Service} (invariant : Invariant s) (decode : List UInt8 → Option Frame)
    (command : Command) : Invariant (s.perform decode command) := by
  cases command with
  | start id => exact invariant.start id
  | stop id => exact invariant.stop id
  | startAll directory => exact invariant.startAll directory
  | stopAll => exact invariant.stopAll
  | remove id => exact invariant.remove id
  | clear id => exact invariant.of_trims (trims_clear s id) (invariant.memory_exact.clear id)
  | capture c place => exact invariant.capture decode c place
  | updateSettings settings place => exact invariant.updateSettings settings place
  | sweep now => exact invariant.of_trims (trims_sweep s now) (invariant.memory_exact.sweep now)

theorem Invariant.run {s : Service} (invariant : Invariant s) (decode : List UInt8 → Option Frame)
    (commands : List Command) : Invariant (s.run decode commands) := by
  induction commands generalizing s with
  | nil => exact invariant
  | cons command rest ih => exact ih (invariant.perform decode command)

theorem MemoryExact.memoryUsage_eq {s : Service} (exact : s.MemoryExact) : s.memoryUsage = entryBytes * s.total := by
  simp only [memoryUsage, total_eq_sum]
  unfold MemoryExact at exact
  generalize s.readers = l at exact ⊢
  induction l with
  | nil => rfl
  | cons p rest ih =>
    have head : p.2.buffer.memory = entryBytes * p.2.buffer.entries.length := exact p List.mem_cons_self
    have tail := ih fun q member => exact q (List.mem_cons_of_mem p member)
    simp only [List.map_cons, List.foldr_cons, List.sum_cons] at tail ⊢
    rw [tail, head, Nat.mul_add]

theorem memoryUsage_le {s : Service} (invariant : Invariant s) :
    s.memoryUsage ≤ max entryBytes (s.settings.memoryLimitBytes.toNat / entryBytes * entryBytes) := by
  have within := invariant.within_global
  rw [invariant.memory_exact.memoryUsage_eq]
  simp only [Settings.globalLimit, entryBytes] at within ⊢
  omega

/-- Every service reached by a run of commands from a new one meets the invariant: the readers
being traced all have a trace, every buffer is under the limits of the current settings, within
their capacity and counted at 192 bytes an entry, and all buffers together hold at most the
global limit. So the memory counted for all buffers is 192 bytes an entry, at most the memory
limit rounded down to whole entries when that holds one, and else one entry's worth; it never
passes the largest memory limit a 64-bit setting can hold. -/
theorem reachable_invariant (decode : List UInt8 → Option Frame) (settings : Settings) (commands : List Command) :
    Invariant ((new settings).run decode commands) ∧
      (∀ p ∈ ((new settings).run decode commands).readers, p.2.buffer.memory = entryBytes * p.2.buffer.length) ∧
      ((new settings).run decode commands).memoryUsage = entryBytes * ((new settings).run decode commands).total ∧
      ((new settings).run decode commands).memoryUsage ≤
        max entryBytes (((new settings).run decode commands).settings.memoryLimitBytes.toNat / entryBytes * entryBytes) := by
  have invariant := (invariant_new settings).run decode commands
  exact ⟨invariant, invariant.memory_exact, invariant.memory_exact.memoryUsage_eq, memoryUsage_le invariant⟩

end Service

end OsdpTrace
