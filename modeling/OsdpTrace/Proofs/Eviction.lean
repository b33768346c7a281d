import OsdpTrace.Proofs.Export

/-! Which entries the global limit drops. Each drop takes the head of a buffer whose head is no
later than any other buffer's head. A buffer's head is its earliest entry only while its entries
were added in order of time, so when every buffer is in order of time the entries dropped are the
globally oldest: none is later than any entry kept. A buffer whose entries went back in time can
keep an entry older than one dropped from another buffer. -/
namespace OsdpTrace

def TimeOrdered (l : List Entry) : Prop := l.Pairwise fun x y => x.timestamp ≤ y.timestamp

instance (l : List Entry) : Decidable (TimeOrdered l) :=
  inferInstanceAs (Decidable (l.Pairwise fun x y => x.timestamp ≤ y.timestamp))

namespace Service

/-- Every entry the service holds, reader by reader in id order, each buffer from its head. -/
def entries (s : Service) : List Entry := s.readers.flatMap (·.2.buffer.entries)

def Ordered (s : Service) : Prop := ∀ p ∈ s.readers, TimeOrdered p.2.buffer.entries

instance (s : Service) : Decidable s.Ordered :=
  inferInstanceAs (Decidable (∀ p ∈ s.readers, TimeOrdered p.2.buffer.entries))

theorem mem_entries {s : Service} {y : Entry} : y ∈ s.entries ↔ ∃ p ∈ s.readers, y ∈ p.2.buffer.entries := by
  simp [entries]

theorem Ordered.of_trims {s' s : Service} (ordered : s.Ordered) (trims : Trims s' s) : s'.Ordered := by
  intro q member
  obtain ⟨p, present, -, shorter⟩ := trims.mem member
  exact (ordered p present).sublist shorter.2.sublist

theorem oldestReader?_head {s : Service} {place : ReaderId → Nat} {id : ReaderId}
    (chosen : s.oldestReader? place = some id) :
    ∃ t x rest, (id, t) ∈ s.readers ∧ t.buffer.entries = x :: rest ∧ ∀ h ∈ s.heads place, x.timestamp ≤ h.2 := by
  obtain ⟨time, first⟩ := oldestReader?_eq_some.mp chosen
  obtain ⟨t, present, oldest⟩ := mem_heads.mp first.mem
  cases nonempty : t.buffer.entries with
  | nil => simp [Buffer.oldest?, nonempty] at oldest
  | cons x rest =>
    have stamp : x.timestamp = time := by simpa [Buffer.oldest?, nonempty] using oldest
    exact ⟨t, x, rest, present, nonempty, fun h other => stamp ▸ first.le h other⟩

theorem le_of_mem_entries {s : Service} (ordered : s.Ordered) {time : Instant} {place : ReaderId → Nat}
    (first : ∀ h ∈ s.heads place, time ≤ h.2) {y : Entry} (member : y ∈ s.entries) : time ≤ y.timestamp := by
  obtain ⟨p, present, held⟩ := mem_entries.mp member
  cases nonempty : p.2.buffer.entries with
  | nil => simp [nonempty] at held
  | cons b rest =>
    have head : (p.1, b.timestamp) ∈ s.heads place :=
      mem_heads.mpr ⟨p.2, present, by simp [Buffer.oldest?, nonempty]⟩
    have sorted : TimeOrdered (b :: rest) := nonempty ▸ ordered p present
    exact Instant.le_trans (first _ head) (head_le_of_mem sorted (nonempty ▸ held))

private theorem flatMap_dropHead (l : List (ReaderId × ReaderTrace)) (id : ReaderId) (t : ReaderTrace)
    (f : ReaderTrace → ReaderTrace) (nodup : (l.map Prod.fst).Nodup) (member : (id, t) ∈ l) {x : Entry}
    (dropped : t.buffer.entries = x :: (f t).buffer.entries) :
    (l.flatMap (·.2.buffer.entries)).Perm
      (x :: (l.map fun p => if p.1 == id then (p.1, f p.2) else p).flatMap (·.2.buffer.entries)) := by
  induction l with
  | nil => simp at member
  | cons p rest ih =>
    simp only [List.map_cons, List.nodup_cons] at nodup
    by_cases same : p.1 = id
    · -- the changed trace is the first; no later one has its id
      have fresh : id ∉ rest.map Prod.fst := same ▸ nodup.1
      have here : p = (id, t) := by
        rcases List.mem_cons.mp member with equal | later
        · exact equal.symm
        · exact absurd (List.mem_map.mpr ⟨_, later, rfl⟩) fresh
      subst here
      rw [List.map_cons, map_update_of_not_mem f fresh]
      simp [dropped]
    · have later : (id, t) ∈ rest := by
        rcases List.mem_cons.mp member with equal | later
        · exact absurd (congrArg Prod.fst equal).symm same
        · exact later
      have kept : (if p.1 == id then (p.1, f p.2) else p) = p := by simp [same]
      rw [List.map_cons, kept, List.flatMap_cons, List.flatMap_cons]
      exact ((ih nodup.2 later).append_left _).trans List.perm_middle

theorem entries_evictHead {s : Service} (nodup : s.ids.Nodup) {id : ReaderId} {t : ReaderTrace}
    (member : (id, t) ∈ s.readers) {x : Entry} {rest : List Entry} (nonempty : t.buffer.entries = x :: rest) :
    s.entries.Perm (x :: (s.evictHead id).entries) := by
  have dropped : t.buffer.entries = x :: ({ t with buffer := (t.buffer.evictOldest 1).1 } : ReaderTrace).buffer.entries := by
    simp [nonempty, Buffer.evictOldest]
  exact flatMap_dropHead s.readers id t (fun t => { t with buffer := (t.buffer.evictOldest 1).1 }) nodup member dropped

theorem evictHead_oldest {s : Service} (nodup : s.ids.Nodup) (ordered : s.Ordered) {place : ReaderId → Nat}
    {id : ReaderId} (chosen : s.oldestReader? place = some id) :
    ∃ x, s.entries.Perm (x :: (s.evictHead id).entries) ∧ ∀ y ∈ s.entries, x.timestamp ≤ y.timestamp := by
  obtain ⟨t, x, rest, member, nonempty, first⟩ := oldestReader?_head chosen
  exact ⟨x, entries_evictHead nodup member nonempty, fun y held => le_of_mem_entries ordered first held⟩

/-- `n` drops of the global limit in ordered buffers take the `n` oldest entries, or all. -/
theorem evictGlobally_oldest {s : Service} (nodup : s.ids.Nodup) (ordered : s.Ordered) (place : ReaderId → Nat)
    (n : Nat) :
    ∃ removed, removed.length = min n s.total ∧ s.entries.Perm (removed ++ (s.evictGlobally place n).entries) ∧
      ∀ x ∈ removed, ∀ y ∈ (s.evictGlobally place n).entries, x.timestamp ≤ y.timestamp := by
  induction n generalizing s with
  | zero => exact ⟨[], by simp, List.Perm.refl _, by simp⟩
  | succ n ih =>
    rw [evictGlobally_succ]
    cases chosen : s.oldestReader? place with
    | none => exact ⟨[], by simp [total_of_oldestReader?_eq_none chosen], List.Perm.refl _, by simp⟩
    | some id =>
      dsimp only
      obtain ⟨x, split, oldest⟩ := evictHead_oldest nodup ordered chosen
      have trims := trims_evictHead s id
      obtain ⟨removed, count, kept, older⟩ :=
        ih (by rwa [trims.ids]) (ordered.of_trims trims)
      have smaller := total_evictHead nodup chosen
      refine ⟨x :: removed, ?_, split.trans (kept.cons x), ?_⟩
      · simp only [List.length_cons, count]
        omega
      · intro z taken y held
        rcases List.mem_cons.mp taken with rfl | later
        · -- what is kept at the end was held before the first drop
          have before : y ∈ s.entries :=
            split.symm.subset (List.mem_cons_of_mem _ (kept.symm.subset (List.mem_append_right _ held)))
          exact oldest y before
        · exact older z later y held

/-- Enforcing the global limit drops exactly the excess of all buffers over the limit, from the
heads of buffers, and leaves the smaller of the total and the limit. When every buffer holds its
entries in order of time, the entries dropped are the globally oldest: together with those kept
they are all the entries held before, and none is later than any entry kept. -/
theorem enforceGlobalLimit_drops_oldest (s : Service) (nodup : s.ids.Nodup) (settings : Settings)
    (place : ReaderId → Nat) :
    (s.enforceGlobalLimit settings place).2 = s.total - settings.globalLimit ∧
    (s.enforceGlobalLimit settings place).1.total = min s.total settings.globalLimit ∧
    Trims (s.enforceGlobalLimit settings place).1 s ∧
    (s.Ordered → ∃ removed, removed.length = (s.enforceGlobalLimit settings place).2 ∧
      s.entries.Perm (removed ++ (s.enforceGlobalLimit settings place).1.entries) ∧
      ∀ x ∈ removed, ∀ y ∈ (s.enforceGlobalLimit settings place).1.entries, x.timestamp ≤ y.timestamp) := by
  refine ⟨rfl, enforceGlobalLimit_total nodup settings place, trims_enforceGlobalLimit s settings place,
    fun ordered => ?_⟩
  obtain ⟨removed, count, kept, older⟩ := evictGlobally_oldest nodup ordered place (s.total - settings.globalLimit)
  refine ⟨removed, ?_, kept, older⟩
  rw [count]
  exact Nat.min_eq_left (Nat.sub_le _ _)

theorem enforceGlobalLimit_drops_oldest_of_two :
    let s := (new Settings.default).run Frame.decodeFlagged
      [.start ⟨1⟩, .start ⟨2⟩, .capture ⟨[1, 0, 0, 0x60], .panel, ⟨2⟩, "B", ⟨5, 0⟩⟩ byId,
        .capture ⟨[1, 0, 0, 0x60], .panel, ⟨1⟩, "A", ⟨10, 0⟩⟩ byId]
    let settings := { Settings.default with memoryLimitBytes := 200 }
    s.ids.Nodup ∧ s.Ordered ∧ (s.enforceGlobalLimit settings byId).2 = 1 ∧
      ((s.enforceGlobalLimit settings byId).2 = s.total - settings.globalLimit ∧
      (s.enforceGlobalLimit settings byId).1.total = min s.total settings.globalLimit ∧
      Trims (s.enforceGlobalLimit settings byId).1 s ∧
      (s.Ordered → ∃ removed, removed.length = (s.enforceGlobalLimit settings byId).2 ∧
        s.entries.Perm (removed ++ (s.enforceGlobalLimit settings byId).1.entries) ∧
        ∀ x ∈ removed, ∀ y ∈ (s.enforceGlobalLimit settings byId).1.entries, x.timestamp ≤ y.timestamp)) :=
  ⟨by decide, by decide, rfl, enforceGlobalLimit_drops_oldest _ (by decide) _ byId⟩

/-- With room for two entries in all buffers together, a third entry for the first reader,
earlier than both entries held, makes the global limit drop the second reader's only entry: the
head of the first reader's buffer is later, so the new entry, older than the one dropped, is kept. -/
theorem global_limit_keeps_older_entry :
    let s := (new { Settings.default with memoryLimitBytes := 384 }).run Frame.decodeFlagged
      [.start ⟨1⟩, .start ⟨2⟩, .capture ⟨[1, 0, 0, 0x60], .panel, ⟨2⟩, "B", ⟨5, 0⟩⟩ byId,
        .capture ⟨[1, 0, 0, 0x60], .panel, ⟨1⟩, "A", ⟨10, 0⟩⟩ byId]
    let c : Capture := ⟨[1, 0, 0, 0x61], .panel, ⟨1⟩, "A", ⟨1, 0⟩⟩
    (s.capture Frame.decodeFlagged c byId).2.1 = .stored ∧
      s.entries.map (·.timestamp) = [⟨10, 0⟩, ⟨5, 0⟩] ∧
      (s.capture Frame.decodeFlagged c byId).1.entries.map (·.timestamp) = [⟨10, 0⟩, ⟨1, 0⟩] :=
  ⟨rfl, by decide, by decide⟩

end Service

end OsdpTrace
