import OsdpTrace.Proofs.Buffer
import OsdpTrace.Trace.Service
import Mathlib

/-! The readers of a trace service: traces listed in increasing order of reader id, one per id.
Changing one trace or all of them keeps the ids in place, and the total the global limit bounds
adds up the lengths of all buffers. A service trims another when it differs from it only by
entries dropped from the heads of buffers. -/
namespace OsdpTrace

theorem ReaderId.bits_inj {a b : ReaderId} : a.bits = b.bits ↔ a = b := by
  cases a
  cases b
  simp

def Ascending (ids : List ReaderId) : Prop := ids.Pairwise fun a b => a.bits < b.bits

theorem Ascending.nodup {ids : List ReaderId} (ascending : Ascending ids) : ids.Nodup :=
  List.Pairwise.imp (fun less same => by subst same; exact Nat.lt_irrefl _ less) ascending

theorem mem_insertId {id x : ReaderId} {ids : List ReaderId} : x ∈ insertId id ids ↔ x = id ∨ x ∈ ids := by
  induction ids with
  | nil => simp [insertId]
  | cons y rest ih =>
    simp only [insertId]
    split_ifs with before same
    · simp
    · have : id = y := ReaderId.bits_inj.mp same
      subst this
      simp
    · simp only [List.mem_cons, ih]
      tauto

theorem insertId_ascending {id : ReaderId} {ids : List ReaderId} (ascending : Ascending ids) :
    Ascending (insertId id ids) := by
  induction ids with
  | nil => simp [insertId, Ascending]
  | cons y rest ih =>
    simp only [Ascending, List.pairwise_cons] at ascending
    simp only [insertId]
    split_ifs with before same
    · simp only [Ascending, List.pairwise_cons, List.mem_cons]
      refine ⟨?_, ascending.1, ascending.2⟩
      rintro z (rfl | later)
      · exact before
      · exact Nat.lt_trans before (ascending.1 z later)
    · simpa [Ascending] using ascending
    · simp only [Ascending, List.pairwise_cons]
      refine ⟨?_, ih ascending.2⟩
      intro z member
      rcases mem_insertId.mp member with rfl | later
      · have : y.bits ≠ z.bits := fun equal => same equal.symm
        omega
      · exact ascending.1 z later

theorem keys_insertTrace (id : ReaderId) (t : ReaderTrace) (l : List (ReaderId × ReaderTrace)) :
    (insertTrace id t l).map Prod.fst = insertId id (l.map Prod.fst) := by
  induction l with
  | nil => rfl
  | cons x rest ih =>
    simp only [insertTrace, insertId, List.map_cons]
    split_ifs <;> simp [ih]

theorem insertTrace_eq_or_perm (id : ReaderId) (t : ReaderTrace) (l : List (ReaderId × ReaderTrace)) :
    insertTrace id t l = l ∨ (insertTrace id t l).Perm ((id, t) :: l) := by
  induction l with
  | nil => exact Or.inr (List.Perm.refl _)
  | cons x rest ih =>
    simp only [insertTrace]
    split_ifs
    · exact Or.inr (List.Perm.refl _)
    · exact Or.inl rfl
    · rcases ih with same | moved
      · exact Or.inl (by rw [same])
      · exact Or.inr ((moved.cons x).trans (List.Perm.swap (id, t) x rest))

def TrimsTrace (t' t : ReaderTrace) : Prop :=
  t'.buffer.limits = t.buffer.limits ∧ t'.buffer.entries <:+ t.buffer.entries

theorem TrimsTrace.refl (t : ReaderTrace) : TrimsTrace t t := ⟨rfl, List.suffix_refl _⟩

theorem TrimsTrace.trans {t'' t' t : ReaderTrace} (second : TrimsTrace t'' t') (first : TrimsTrace t' t) :
    TrimsTrace t'' t :=
  ⟨second.1.trans first.1, second.2.trans first.2⟩

theorem TrimsTrace.length_le {t' t : ReaderTrace} (trims : TrimsTrace t' t) :
    t'.buffer.entries.length ≤ t.buffer.entries.length :=
  trims.2.length_le

namespace Service

def ids (s : Service) : List ReaderId := s.readers.map Prod.fst

@[simp] theorem modifyTrace_settings (s : Service) (id : ReaderId) (f : ReaderTrace → ReaderTrace) :
    (s.modifyTrace id f).settings = s.settings := rfl

@[simp] theorem modifyTrace_active (s : Service) (id : ReaderId) (f : ReaderTrace → ReaderTrace) :
    (s.modifyTrace id f).active = s.active := rfl

@[simp] theorem modifyTraces_settings (s : Service) (f : ReaderTrace → ReaderTrace) :
    (s.modifyTraces f).settings = s.settings := rfl

@[simp] theorem modifyTraces_active (s : Service) (f : ReaderTrace → ReaderTrace) :
    (s.modifyTraces f).active = s.active := rfl

@[simp] theorem ids_modifyTrace (s : Service) (id : ReaderId) (f : ReaderTrace → ReaderTrace) :
    (s.modifyTrace id f).ids = s.ids := by
  simp only [ids, modifyTrace, List.map_map]
  congr 1
  funext p
  simp only [Function.comp_apply]
  split <;> rfl

@[simp] theorem ids_modifyTraces (s : Service) (f : ReaderTrace → ReaderTrace) :
    (s.modifyTraces f).ids = s.ids := by
  simp [ids, modifyTraces, Function.comp_def]

theorem mem_modifyTrace {s : Service} {id : ReaderId} {f : ReaderTrace → ReaderTrace}
    {q : ReaderId × ReaderTrace} (member : q ∈ (s.modifyTrace id f).readers) :
    ∃ p ∈ s.readers, q.1 = p.1 ∧ (q.2 = p.2 ∨ q.2 = f p.2) := by
  obtain ⟨p, present, rfl⟩ := List.mem_map.mp member
  refine ⟨p, present, ?_⟩
  split <;> simp

theorem mem_modifyTraces {s : Service} {f : ReaderTrace → ReaderTrace} {q : ReaderId × ReaderTrace}
    (member : q ∈ (s.modifyTraces f).readers) : ∃ p ∈ s.readers, q = (p.1, f p.2) := by
  obtain ⟨p, present, rfl⟩ := List.mem_map.mp member
  exact ⟨p, present, rfl⟩

theorem map_update_of_not_mem {l : List (ReaderId × ReaderTrace)} {key : ReaderId}
    (f : ReaderTrace → ReaderTrace) (absent : key ∉ l.map Prod.fst) :
    l.map (fun p => if p.1 == key then (p.1, f p.2) else p) = l := by
  have unchanged : ∀ p ∈ l, (if p.1 == key then (p.1, f p.2) else p) = id p := by
    intro p member
    have : p.1 ≠ key := fun equal => absent (List.mem_map.mpr ⟨p, member, equal⟩)
    simp [this]
  rw [List.map_congr_left unchanged, List.map_id]

theorem modifyTrace_of_not_mem {s : Service} {id : ReaderId} (f : ReaderTrace → ReaderTrace)
    (absent : id ∉ s.ids) : s.modifyTrace id f = s := by
  simp only [modifyTrace, map_update_of_not_mem f absent]

theorem modifyTrace_modifyTrace (s : Service) (id : ReaderId) (f g : ReaderTrace → ReaderTrace) :
    (s.modifyTrace id f).modifyTrace id g = s.modifyTrace id (g ∘ f) := by
  simp only [modifyTrace, List.map_map]
  congr 2
  funext p
  by_cases same : p.1 = id <;> simp [same]

theorem modifyTrace_congr {s : Service} {id : ReaderId} {f g : ReaderTrace → ReaderTrace}
    (same : ∀ p ∈ s.readers, p.1 = id → f p.2 = g p.2) : s.modifyTrace id f = s.modifyTrace id g := by
  simp only [modifyTrace, Service.mk.injEq, and_true, true_and]
  apply List.map_congr_left
  intro p member
  by_cases key : p.1 = id
  · simp [key, same p member key]
  · simp [key]

theorem trace_unique {s : Service} {id : ReaderId} {t : ReaderTrace} (nodup : s.ids.Nodup)
    (member : (id, t) ∈ s.readers) {p : ReaderId × ReaderTrace} (present : p ∈ s.readers) (key : p.1 = id) :
    p.2 = t := by
  have := List.inj_on_of_nodup_map nodup present member key
  rw [this]

theorem mem_modifyTrace_of_ne {s : Service} {id key : ReaderId} (f : ReaderTrace → ReaderTrace)
    (different : key ≠ id) {t : ReaderTrace} : (key, t) ∈ (s.modifyTrace id f).readers ↔ (key, t) ∈ s.readers := by
  simp only [modifyTrace, List.mem_map]
  constructor
  · rintro ⟨p, present, equal⟩
    by_cases same : p.1 = id
    · simp only [same, beq_self_eq_true, if_true, Prod.mk.injEq] at equal
      exact absurd equal.1.symm different
    · simp only [beq_iff_eq, same, if_false] at equal
      rwa [← equal]
  · intro present
    exact ⟨(key, t), present, by simp [different]⟩

theorem mem_modifyTrace_self {s : Service} {id : ReaderId} {t : ReaderTrace} (f : ReaderTrace → ReaderTrace)
    (nodup : s.ids.Nodup) (member : (id, t) ∈ s.readers) {u : ReaderTrace} :
    (id, u) ∈ (s.modifyTrace id f).readers ↔ u = f t := by
  simp only [modifyTrace, List.mem_map]
  constructor
  · rintro ⟨p, present, equal⟩
    by_cases same : p.1 = id
    · simp only [same, beq_self_eq_true, if_true, Prod.mk.injEq] at equal
      rw [← equal.2, trace_unique nodup member present same]
    · simp only [beq_iff_eq, same, if_false] at equal
      exact absurd (congrArg Prod.fst equal) same
  · rintro rfl
    exact ⟨(id, t), member, by simp⟩

theorem trace?_eq_some {s : Service} {id : ReaderId} {t : ReaderTrace} (found : s.trace? id = some t) :
    (id, t) ∈ s.readers := by
  obtain ⟨p, first, rfl⟩ := Option.map_eq_some_iff.mp found
  have same : p.1 = id := by simpa using List.find?_some first
  have member := List.mem_of_find?_eq_some first
  rwa [← same]

theorem trace?_isSome {s : Service} {id : ReaderId} (member : id ∈ s.ids) : (s.trace? id).isSome := by
  obtain ⟨p, present, rfl⟩ := List.mem_map.mp member
  simp only [trace?, Option.isSome_map]
  exact List.find?_isSome.mpr ⟨p, present, by simp⟩

theorem trace?_eq_none {s : Service} {id : ReaderId} : s.trace? id = none ↔ id ∉ s.ids := by
  constructor
  · intro missing member
    simpa [missing] using trace?_isSome member
  · intro absent
    simp only [trace?, Option.map_eq_none_iff, List.find?_eq_none]
    intro p member same
    exact absent (List.mem_map.mpr ⟨p, member, by simpa using same⟩)

theorem trace?_of_mem {s : Service} {id : ReaderId} {t : ReaderTrace} (nodup : s.ids.Nodup)
    (member : (id, t) ∈ s.readers) : s.trace? id = some t := by
  obtain ⟨u, found⟩ := Option.isSome_iff_exists.mp (trace?_isSome (List.mem_map.mpr ⟨_, member, rfl⟩))
  have other := trace?_eq_some found
  have same : u = t := by
    have := (List.inj_on_of_nodup_map nodup) other member rfl
    simpa using this
  rw [found, same]

theorem trace?_modifyTrace_self (s : Service) (id : ReaderId) (f : ReaderTrace → ReaderTrace) :
    (s.modifyTrace id f).trace? id = (s.trace? id).map f := by
  simp only [trace?, modifyTrace, List.find?_map, Option.map_map]
  have keys : ((fun p : ReaderId × ReaderTrace => p.1 == id) ∘
      fun p => if p.1 == id then (p.1, f p.2) else p) = fun p => p.1 == id := by
    funext p
    simp only [Function.comp_apply]
    split <;> rfl
  rw [keys]
  cases found : s.readers.find? (fun p => p.1 == id) with
  | none => rfl
  | some p =>
    have hit : p.1 = id := by simpa using List.find?_some found
    simp [hit]

theorem trace?_modifyTrace_of_ne (s : Service) {id other : ReaderId} (f : ReaderTrace → ReaderTrace)
    (different : other ≠ id) : (s.modifyTrace id f).trace? other = s.trace? other := by
  simp only [trace?, modifyTrace, List.find?_map, Option.map_map]
  have keys : ((fun p : ReaderId × ReaderTrace => p.1 == other) ∘
      fun p => if p.1 == id then (p.1, f p.2) else p) = fun p => p.1 == other := by
    funext p
    simp only [Function.comp_apply]
    split <;> rfl
  rw [keys]
  cases found : s.readers.find? (fun p => p.1 == other) with
  | none => rfl
  | some p =>
    have : p.1 = other := by simpa using List.find?_some found
    simp [this, different]

theorem total_eq_sum (s : Service) : s.total = (s.readers.map fun p => p.2.buffer.entries.length).sum := rfl

theorem insertByPlace_eq (place : ReaderId → Nat) (p : ReaderId × ReaderTrace) (l : List (ReaderId × ReaderTrace)) :
    insertByPlace place p l = l.orderedInsert (fun p q => place p.1 ≤ place q.1) p := by
  induction l with
  | nil => rfl
  | cons q rest ih => rw [insertByPlace, List.orderedInsert_cons, ih]

/-- The visit is the insertion sort of the readers by place. -/
theorem visit_eq_insertionSort (s : Service) (place : ReaderId → Nat) :
    s.visit place = s.readers.insertionSort fun p q => place p.1 ≤ place q.1 := by
  rw [visit, List.insertionSort]
  congr 1
  funext p l
  exact insertByPlace_eq place p l

theorem visit_perm (s : Service) (place : ReaderId → Nat) : (s.visit place).Perm s.readers := by
  rw [visit_eq_insertionSort]
  exact List.perm_insertionSort _ _

@[simp] theorem mem_visit {s : Service} {place : ReaderId → Nat} {p : ReaderId × ReaderTrace} :
    p ∈ s.visit place ↔ p ∈ s.readers :=
  (s.visit_perm place).mem_iff

theorem visit_ids_nodup {s : Service} (nodup : s.ids.Nodup) (place : ReaderId → Nat) :
    ((s.visit place).map Prod.fst).Nodup :=
  ((s.visit_perm place).map Prod.fst).nodup_iff.mpr nodup

/-- The visit compares readers by their ids alone, so changing traces changes the visit in place. -/
theorem visit_map {s : Service} (place : ReaderId → Nat) {g : ReaderId × ReaderTrace → ReaderId × ReaderTrace}
    (keys : ∀ p, (g p).1 = p.1) : (s.visit place).map g = (s.readers.map g).insertionSort
      fun p q => place p.1 ≤ place q.1 := by
  rw [visit_eq_insertionSort]
  exact List.map_insertionSort _ _ _ _ fun a _ b _ => by rw [keys, keys]

theorem find?_visit {s : Service} (nodup : s.ids.Nodup) (place : ReaderId → Nat) (r : ReaderId) :
    (s.visit place).find? (·.1 == r) = s.readers.find? (·.1 == r) := by
  cases found : s.readers.find? (·.1 == r) with
  | none =>
    rw [List.find?_eq_none] at found ⊢
    exact fun p member => found p (mem_visit.mp member)
  | some p =>
    have key : p.1 = r := by simpa using List.find?_some found
    have present := List.mem_of_find?_eq_some found
    have visited : ((s.visit place).find? (·.1 == r)).isSome :=
      List.find?_isSome.mpr ⟨p, mem_visit.mpr present, by simp [key]⟩
    obtain ⟨q, seen⟩ := Option.isSome_iff_exists.mp visited
    have key' : q.1 = r := by simpa using List.find?_some seen
    rw [seen, List.inj_on_of_nodup_map nodup (mem_visit.mp (List.mem_of_find?_eq_some seen)) present
      (key'.trans key.symm)]

theorem visit_modifyTrace (s : Service) (id : ReaderId) (f : ReaderTrace → ReaderTrace) (place : ReaderId → Nat) :
    (s.modifyTrace id f).visit place = (s.visit place).map fun p => if p.1 == id then (p.1, f p.2) else p := by
  rw [visit_map place fun p => by split <;> rfl, visit_eq_insertionSort]
  rfl

private theorem sum_update (l : List (ReaderId × ReaderTrace)) (id : ReaderId) (t : ReaderTrace)
    (f : ReaderTrace → ReaderTrace) (nodup : (l.map Prod.fst).Nodup) (member : (id, t) ∈ l) :
    ((l.map fun p => if p.1 == id then (p.1, f p.2) else p).map
        fun p => p.2.buffer.entries.length).sum + t.buffer.entries.length =
      (l.map fun p => p.2.buffer.entries.length).sum + (f t).buffer.entries.length := by
  induction l with
  | nil => simp at member
  | cons p rest ih =>
    simp only [List.map_cons, List.nodup_cons] at nodup
    by_cases same : p.1 = id
    · have fresh : id ∉ rest.map Prod.fst := same ▸ nodup.1
      have here : p = (id, t) := by
        rcases List.mem_cons.mp member with equal | later
        · exact equal.symm
        · exact absurd (List.mem_map.mpr ⟨_, later, rfl⟩) fresh
      subst here
      simp only [List.map_cons, beq_self_eq_true, if_true, map_update_of_not_mem f fresh, List.sum_cons]
      omega
    · have later : (id, t) ∈ rest := by
        rcases List.mem_cons.mp member with equal | later
        · exact absurd (congrArg Prod.fst equal).symm same
        · exact later
      have := ih nodup.2 later
      simp only [List.map_cons, List.sum_cons, beq_iff_eq, same, if_false] at this ⊢
      omega

theorem total_modifyTrace {s : Service} {id : ReaderId} {t : ReaderTrace} (f : ReaderTrace → ReaderTrace)
    (nodup : s.ids.Nodup) (member : (id, t) ∈ s.readers) :
    (s.modifyTrace id f).total + t.buffer.entries.length = s.total + (f t).buffer.entries.length :=
  sum_update s.readers id t f nodup member

/-- `s'` is `s` with entries dropped from the heads of its buffers: the same settings, the same
readers being traced, and the same readers in the same order, each buffer under the same limits. -/
structure Trims (s' s : Service) : Prop where
  settings : s'.settings = s.settings
  active : s'.active = s.active
  readers : List.Forall₂ (fun q p => q.1 = p.1 ∧ TrimsTrace q.2 p.2) s'.readers s.readers

theorem Trims.refl (s : Service) : Trims s s :=
  ⟨rfl, rfl, List.forall₂_same.mpr fun p _ => ⟨rfl, TrimsTrace.refl p.2⟩⟩

private theorem forall₂_trims_trans {l'' l' l : List (ReaderId × ReaderTrace)}
    (second : List.Forall₂ (fun q p => q.1 = p.1 ∧ TrimsTrace q.2 p.2) l'' l')
    (first : List.Forall₂ (fun q p => q.1 = p.1 ∧ TrimsTrace q.2 p.2) l' l) :
    List.Forall₂ (fun q p => q.1 = p.1 ∧ TrimsTrace q.2 p.2) l'' l := by
  induction second generalizing l with
  | nil => cases first; exact List.Forall₂.nil
  | cons head _ ih =>
    cases first with
    | cons head' tail' => exact List.Forall₂.cons ⟨head.1.trans head'.1, head.2.trans head'.2⟩ (ih tail')

theorem Trims.trans {s'' s' s : Service} (second : Trims s'' s') (first : Trims s' s) : Trims s'' s :=
  ⟨second.settings.trans first.settings, second.active.trans first.active,
    forall₂_trims_trans second.readers first.readers⟩

private theorem forall₂_trims_keys {l' l : List (ReaderId × ReaderTrace)}
    (related : List.Forall₂ (fun q p => q.1 = p.1 ∧ TrimsTrace q.2 p.2) l' l) :
    l'.map Prod.fst = l.map Prod.fst := by
  induction related with
  | nil => rfl
  | cons head _ ih => simp [head.1, ih]

private theorem forall₂_trims_sum_le {l' l : List (ReaderId × ReaderTrace)}
    (related : List.Forall₂ (fun q p => q.1 = p.1 ∧ TrimsTrace q.2 p.2) l' l) :
    (l'.map fun p => p.2.buffer.entries.length).sum ≤ (l.map fun p => p.2.buffer.entries.length).sum := by
  induction related with
  | nil => simp
  | cons head _ ih =>
    have := head.2.length_le
    simp only [List.map_cons, List.sum_cons]
    omega

private theorem forall₂_trims_mem {l' l : List (ReaderId × ReaderTrace)}
    (related : List.Forall₂ (fun q p => q.1 = p.1 ∧ TrimsTrace q.2 p.2) l' l) {q : ReaderId × ReaderTrace}
    (member : q ∈ l') : ∃ p ∈ l, q.1 = p.1 ∧ TrimsTrace q.2 p.2 := by
  induction related with
  | nil => simp at member
  | cons head _ ih =>
    rcases List.mem_cons.mp member with rfl | later
    · exact ⟨_, List.mem_cons_self, head⟩
    · obtain ⟨p, present, same⟩ := ih later
      exact ⟨p, List.mem_cons_of_mem _ present, same⟩

theorem Trims.ids {s' s : Service} (trims : Trims s' s) : s'.ids = s.ids :=
  forall₂_trims_keys trims.readers

theorem Trims.total_le {s' s : Service} (trims : Trims s' s) : s'.total ≤ s.total :=
  forall₂_trims_sum_le trims.readers

theorem Trims.mem {s' s : Service} (trims : Trims s' s) {q : ReaderId × ReaderTrace} (member : q ∈ s'.readers) :
    ∃ p ∈ s.readers, q.1 = p.1 ∧ TrimsTrace q.2 p.2 :=
  forall₂_trims_mem trims.readers member

theorem trims_modifyTrace (s : Service) (id : ReaderId) {f : ReaderTrace → ReaderTrace}
    (shrinks : ∀ t, TrimsTrace (f t) t) : Trims (s.modifyTrace id f) s := by
  refine ⟨rfl, rfl, ?_⟩
  simp only [modifyTrace, List.forall₂_map_left_iff, List.forall₂_same]
  intro p _
  split
  · exact ⟨rfl, shrinks p.2⟩
  · exact ⟨rfl, TrimsTrace.refl p.2⟩

theorem trims_modifyTraces (s : Service) {f : ReaderTrace → ReaderTrace}
    (shrinks : ∀ t, TrimsTrace (f t) t) : Trims (s.modifyTraces f) s := by
  refine ⟨rfl, rfl, ?_⟩
  simp only [modifyTraces, List.forall₂_map_left_iff, List.forall₂_same]
  exact fun p _ => ⟨by simp, shrinks p.2⟩

end Service

end OsdpTrace
