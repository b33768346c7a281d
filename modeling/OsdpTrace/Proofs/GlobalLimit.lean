import OsdpTrace.Proofs.Readers

/-! The global limit of a trace service. While all buffers together hold more entries than the
settings allow, the head of the buffer whose head is oldest is dropped; on a tie, that of the
reader the visit of the reader map meets first. Every drop takes exactly one entry, so enforcing
the limit leaves the smaller of the total and the limit, and changes nothing but the heads of
buffers. -/
namespace OsdpTrace

namespace Instant

theorem lt_iff {a b : Instant} : a < b ↔ a.second < b.second ∨ (a.second = b.second ∧ a.fraction < b.fraction) :=
  Iff.rfl

theorem le_iff {a b : Instant} : a ≤ b ↔ a.second < b.second ∨ (a.second = b.second ∧ a.fraction ≤ b.fraction) :=
  Iff.rfl

theorem lt_trans {a b c : Instant} (first : a < b) (second : b < c) : a < c := by
  rw [lt_iff] at *
  omega

theorem not_lt {a b : Instant} : ¬a < b ↔ b ≤ a := by
  rw [lt_iff, le_iff]
  omega

theorem lt_of_lt_of_le {a b c : Instant} (first : a < b) (second : b ≤ c) : a < c := by
  rw [lt_iff] at *
  rw [le_iff] at second
  omega

theorem le_refl (a : Instant) : a ≤ a := by
  rw [le_iff]
  omega

theorem le_trans {a b c : Instant} (first : a ≤ b) (second : b ≤ c) : a ≤ c := by
  rw [le_iff] at *
  omega

theorem le_of_lt {a b : Instant} (less : a < b) : a ≤ b := by
  rw [lt_iff] at less
  rw [le_iff]
  omega

end Instant

namespace Service

def evictHead (s : Service) (id : ReaderId) : Service :=
  s.modifyTrace id fun t => { t with buffer := (t.buffer.evictOldest 1).1 }

/-- The older of a best head so far and the next one; the earlier one on a tie. -/
def olderHead (best : Option (ReaderId × Instant)) (h : ReaderId × Instant) : Option (ReaderId × Instant) :=
  match best with
  | some b => if h.2 < b.2 then some h else some b
  | none => some h

def heads (s : Service) (place : ReaderId → Nat) : List (ReaderId × Instant) :=
  (s.visit place).filterMap fun p => p.2.buffer.oldest?.map fun t => (p.1, t)

theorem oldestReader?_eq_fold (s : Service) (place : ReaderId → Nat) :
    s.oldestReader? place = ((s.heads place).foldl olderHead none).map (·.1) := rfl

theorem evictGlobally_succ (s : Service) (place : ReaderId → Nat) (n : Nat) :
    s.evictGlobally place (n + 1) = match s.oldestReader? place with
      | some id => (s.evictHead id).evictGlobally place n
      | none => s := rfl

theorem mem_heads {s : Service} {place : ReaderId → Nat} {h : ReaderId × Instant} :
    h ∈ s.heads place ↔ ∃ t, (h.1, t) ∈ s.readers ∧ t.buffer.oldest? = some h.2 := by
  simp only [heads, List.mem_filterMap, Option.map_eq_some_iff, mem_visit]
  constructor
  · rintro ⟨p, member, time, oldest, rfl⟩
    exact ⟨p.2, member, oldest⟩
  · rintro ⟨t, member, oldest⟩
    exact ⟨(h.1, t), member, h.2, oldest, rfl⟩

theorem heads_eq_nil {s : Service} {place : ReaderId → Nat} :
    s.heads place = [] ↔ ∀ p ∈ s.readers, p.2.buffer.entries = [] := by
  simp only [heads, List.filterMap_eq_nil_iff, Option.map_eq_none_iff, Buffer.oldest?,
    List.head?_eq_none_iff, mem_visit]

/-- `x` is the first of the heads `hs` that no head is older than: every head before it is
younger, and none after it is older. -/
def FirstOldest (hs : List (ReaderId × Instant)) (x : ReaderId × Instant) : Prop :=
  ∃ before after, hs = before ++ x :: after ∧ (∀ y ∈ before, x.2 < y.2) ∧ ∀ y ∈ after, x.2 ≤ y.2

theorem FirstOldest.mem {hs : List (ReaderId × Instant)} {x : ReaderId × Instant} (first : FirstOldest hs x) :
    x ∈ hs := by
  obtain ⟨before, after, rfl, -⟩ := first
  exact List.mem_append_right before List.mem_cons_self

theorem FirstOldest.le {hs : List (ReaderId × Instant)} {x : ReaderId × Instant} (first : FirstOldest hs x) :
    ∀ y ∈ hs, x.2 ≤ y.2 := by
  obtain ⟨before, after, rfl, younger, notOlder⟩ := first
  intro y member
  simp only [List.mem_append, List.mem_cons] at member
  rcases member with earlier | rfl | later
  · exact Instant.le_of_lt (younger y earlier)
  · exact Instant.le_refl _
  · exact notOlder y later

theorem FirstOldest.unique {hs : List (ReaderId × Instant)} {x x' : ReaderId × Instant}
    (first : FirstOldest hs x) (second : FirstOldest hs x') : x = x' := by
  obtain ⟨b, a, split, younger, notOlder⟩ := first
  obtain ⟨b', a', split', younger', notOlder'⟩ := second
  rw [split] at split'
  -- at two places, the earlier head would be both no older and younger than the later one
  rcases List.append_eq_append_iff.mp split' with ⟨c, rfl, rest⟩ | ⟨c, rfl, rest⟩
  · cases c with
    | nil => exact (List.cons.inj rest).1
    | cons z c =>
      obtain ⟨rfl, rfl⟩ := List.cons.inj rest
      exact absurd (younger' x (by simp)) (Instant.not_lt.mpr (notOlder x' (by simp)))
  · cases c with
    | nil => exact (List.cons.inj rest).1.symm
    | cons z c =>
      obtain ⟨rfl, rfl⟩ := List.cons.inj rest
      exact absurd (younger x' (by simp)) (Instant.not_lt.mpr (notOlder' x (by simp)))

theorem foldl_olderHead_none {hs : List (ReaderId × Instant)} : hs.foldl olderHead none = none ↔ hs = [] := by
  constructor
  · intro empty
    cases hs with
    | nil => rfl
    | cons h rest =>
      have never : ∀ (l : List (ReaderId × Instant)) b, l.foldl olderHead (some b) ≠ none := by
        intro l
        induction l with
        | nil => simp
        | cons y l ih =>
          intro b
          simp only [List.foldl_cons, olderHead]
          split <;> exact ih _
      exact absurd empty (never rest h)
  · rintro rfl
    rfl

theorem foldl_olderHead_first {hs : List (ReaderId × Instant)} {x : ReaderId × Instant}
    (picked : hs.foldl olderHead none = some x) : FirstOldest hs x := by
  induction hs using List.reverseRecOn generalizing x with
  | nil => simp at picked
  | append_singleton rest h ih =>
    rw [List.foldl_append, List.foldl_cons, List.foldl_nil] at picked
    cases before : rest.foldl olderHead none with
    | none =>
      simp only [before, olderHead, Option.some.injEq] at picked
      subst picked
      rw [foldl_olderHead_none.mp before]
      exact ⟨[], [], rfl, by simp, by simp⟩
    | some b =>
      have best := ih before
      simp only [before, olderHead] at picked
      split at picked
      · -- a head younger than every head so far is the first oldest
        rename_i newer
        cases picked
        exact ⟨rest, [], rfl, fun y member => Instant.lt_of_lt_of_le newer (best.le y member), by simp⟩
      · rename_i notNewer
        cases picked
        obtain ⟨front, back, split, younger, notOlder⟩ := best
        refine ⟨front, back ++ [h], by simp [split], younger, fun y member => ?_⟩
        rcases List.mem_append.mp member with later | last
        · exact notOlder y later
        · rw [List.mem_singleton.mp last]
          exact Instant.not_lt.mp notNewer

theorem foldl_olderHead_eq_some {hs : List (ReaderId × Instant)} {x : ReaderId × Instant} :
    hs.foldl olderHead none = some x ↔ FirstOldest hs x := by
  constructor
  · exact foldl_olderHead_first
  · intro first
    cases picked : hs.foldl olderHead none with
    | none =>
      obtain ⟨before, after, split, -⟩ := first
      rw [foldl_olderHead_none.mp picked] at split
      simp at split
    | some y => rw [(foldl_olderHead_first picked).unique first]

theorem oldestReader?_eq_none {s : Service} {place : ReaderId → Nat} :
    s.oldestReader? place = none ↔ ∀ p ∈ s.readers, p.2.buffer.entries = [] := by
  rw [oldestReader?_eq_fold, Option.map_eq_none_iff, foldl_olderHead_none, heads_eq_nil]

/-- The reader whose head the global limit drops: its head is younger than that of every reader
the visit meets before it, and no older than that of any it meets after. -/
theorem oldestReader?_eq_some {s : Service} {place : ReaderId → Nat} {id : ReaderId} :
    s.oldestReader? place = some id ↔ ∃ time, FirstOldest (s.heads place) (id, time) := by
  rw [oldestReader?_eq_fold, Option.map_eq_some_iff]
  constructor
  · rintro ⟨x, picked, rfl⟩
    exact ⟨x.2, foldl_olderHead_eq_some.mp picked⟩
  · rintro ⟨time, first⟩
    exact ⟨(id, time), foldl_olderHead_eq_some.mpr first, rfl⟩

theorem oldestReader?_nonempty {s : Service} {place : ReaderId → Nat} {id : ReaderId}
    (chosen : s.oldestReader? place = some id) : ∃ t, (id, t) ∈ s.readers ∧ t.buffer.entries ≠ [] := by
  obtain ⟨time, first⟩ := oldestReader?_eq_some.mp chosen
  obtain ⟨t, present, oldest⟩ := mem_heads.mp first.mem
  refine ⟨t, present, fun empty => ?_⟩
  simp [Buffer.oldest?, empty] at oldest

theorem trims_evictHead (s : Service) (id : ReaderId) : Trims (s.evictHead id) s :=
  trims_modifyTrace s id fun t => ⟨rfl, (Buffer.evictOldest_drops t.buffer 1).suffix⟩

theorem trims_evictGlobally (s : Service) (place : ReaderId → Nat) (n : Nat) : Trims (s.evictGlobally place n) s := by
  induction n generalizing s with
  | zero => exact Trims.refl s
  | succ n ih =>
    rw [evictGlobally_succ]
    split
    · exact (ih _).trans (trims_evictHead s _)
    · exact Trims.refl s

theorem total_of_oldestReader?_eq_none {s : Service} {place : ReaderId → Nat}
    (nothing : s.oldestReader? place = none) : s.total = 0 := by
  have empty := oldestReader?_eq_none.mp nothing
  rw [total_eq_sum, List.sum_eq_zero_iff_forall_eq_nat]
  intro n member
  obtain ⟨p, present, rfl⟩ := List.mem_map.mp member
  simp [empty p present]

theorem total_evictHead {s : Service} (nodup : s.ids.Nodup) {place : ReaderId → Nat} {id : ReaderId}
    (chosen : s.oldestReader? place = some id) : (s.evictHead id).total + 1 = s.total := by
  obtain ⟨t, member, nonempty⟩ := oldestReader?_nonempty chosen
  have changed := total_modifyTrace (fun t => { t with buffer := (t.buffer.evictOldest 1).1 }) nodup member
  have shorter : (t.buffer.evictOldest 1).1.entries.length + 1 = t.buffer.entries.length := by
    have positive : 0 < t.buffer.entries.length := List.length_pos_of_ne_nil nonempty
    simp only [Buffer.evictOldest, Buffer.recomputeMemory_entries, List.length_drop, Buffer.length_eq]
    omega
  unfold evictHead
  dsimp only at changed
  omega

theorem total_evictGlobally {s : Service} (nodup : s.ids.Nodup) (place : ReaderId → Nat) (n : Nat) :
    (s.evictGlobally place n).total = s.total - n := by
  induction n generalizing s with
  | zero => rfl
  | succ n ih =>
    rw [evictGlobally_succ]
    cases chosen : s.oldestReader? place with
    | none => simp [total_of_oldestReader?_eq_none chosen]
    | some id =>
      have dropped := total_evictHead nodup chosen
      have rest := @ih (s.evictHead id) (by rwa [(trims_evictHead s id).ids])
      show ((s.evictHead id).evictGlobally place n).total = _
      omega

theorem enforceGlobalLimit_total {s : Service} (nodup : s.ids.Nodup) (settings : Settings) (place : ReaderId → Nat) :
    (s.enforceGlobalLimit settings place).1.total = min s.total settings.globalLimit := by
  simp only [enforceGlobalLimit, total_evictGlobally nodup]
  omega

theorem enforceGlobalLimit_of_le {s : Service} {settings : Settings} (within : s.total ≤ settings.globalLimit)
    (place : ReaderId → Nat) : (s.enforceGlobalLimit settings place).1 = s := by
  simp only [enforceGlobalLimit, Nat.sub_eq_zero_of_le within]
  rfl

theorem enforceGlobalLimit_of_eq_succ {s : Service} {settings : Settings} (excess : s.total = settings.globalLimit + 1)
    (place : ReaderId → Nat) :
    (s.enforceGlobalLimit settings place).1 = match s.oldestReader? place with
      | some id => s.evictHead id
      | none => s := by
  have one : s.total - settings.globalLimit = 1 := by omega
  simp only [enforceGlobalLimit, one, evictGlobally_succ]
  split <;> rfl

theorem trims_enforceGlobalLimit (s : Service) (settings : Settings) (place : ReaderId → Nat) :
    Trims (s.enforceGlobalLimit settings place).1 s :=
  trims_evictGlobally s place _

end Service

end OsdpTrace
