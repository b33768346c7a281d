import OsdpTrace.Proofs.Capture
import OsdpTrace.Proofs.Export

/-! The views of traced entries. Tag the entries of a buffer with their places of insertion and
put them in order of time, and at one time in order of place: the oldest-first view is that order,
and the newest-first view is its reverse, cut to the limit. The traces of one reader are its
entries that views show in that newest-first order, cut to the limit. The traces of all readers
sort the entries views show, reader by reader newest first, by time alone; so they are as many
as the limit allows, each held entry at most once, the latest first, and no entry left out is
later than the last one given. In a service reached by commands every entry sits in the buffer
of the reader it was recorded for, so the traces of all readers list the entries of one reader
and one time as those of that reader alone do: the one added later first. -/
namespace OsdpTrace

namespace Instant

theorem lt_irrefl (a : Instant) : ¬a < a := by
  rw [lt_iff]
  omega

theorem lt_of_not_le {a b : Instant} (later : ¬b ≤ a) : a < b := by
  rw [lt_iff]
  rw [le_iff] at later
  omega

end Instant

/-- The order of age on entries tagged with their places of insertion: the earlier time first,
and at one time the earlier place. -/
def AgeBefore (x y : Entry × Nat) : Prop :=
  x.1.timestamp < y.1.timestamp ∨ (x.1.timestamp = y.1.timestamp ∧ x.2 < y.2)

def AgeSorted (tagged : List (Entry × Nat)) : Prop := tagged.Pairwise AgeBefore

theorem AgeBefore.asymm {x y : Entry × Nat} (before : AgeBefore x y) : ¬AgeBefore y x := by
  rintro (earlier | ⟨same, earlier⟩)
  · rcases before with later | ⟨same', -⟩
    · exact Instant.lt_irrefl _ (Instant.lt_trans later earlier)
    · rw [same'] at earlier
      exact Instant.lt_irrefl _ earlier
  · rcases before with later | ⟨-, later⟩
    · rw [same] at later
      exact Instant.lt_irrefl _ later
    · omega

theorem ageBefore_of_zipIdxLE {x y : Entry × Nat}
    (ordered : List.zipIdxLE (fun a b => decide (a.timestamp ≤ b.timestamp)) x y = true) (apart : x.2 ≠ y.2) :
    AgeBefore x y := by
  unfold List.zipIdxLE at ordered
  by_cases first : x.1.timestamp ≤ y.1.timestamp
  · by_cases second : y.1.timestamp ≤ x.1.timestamp
    · simp only [first, second, decide_true, if_true, decide_eq_true_eq] at ordered
      exact Or.inr ⟨Instant.le_antisymm first second, by omega⟩
    · exact Or.inl (Instant.lt_of_not_le second)
  · simp [first] at ordered

/-- Two arrangements of the same tagged entries, both in order of age, are the same. -/
theorem AgeSorted.eq {tagged tagged' : List (Entry × Nat)} (perm : tagged.Perm tagged') (sorted : AgeSorted tagged)
    (sorted' : AgeSorted tagged') : tagged = tagged' :=
  perm.eq_of_pairwise (fun _ _ _ _ before after => absurd after before.asymm) sorted sorted'

namespace Buffer

def byAge (b : Buffer) : List (Entry × Nat) :=
  b.entries.zipIdx.mergeSort (List.zipIdxLE fun x y => decide (x.timestamp ≤ y.timestamp))

theorem byAge_perm (b : Buffer) : b.byAge.Perm b.entries.zipIdx := List.mergeSort_perm _ _

theorem ageSorted_byAge (b : Buffer) : AgeSorted b.byAge := by
  have ordered := List.pairwise_mergeSort (List.zipIdxLE_trans Entry.earlier_trans)
    (List.zipIdxLE_total Entry.earlier_total) b.entries.zipIdx
  have places : (b.byAge.map Prod.snd).Nodup := by
    rw [(b.byAge_perm.map Prod.snd).nodup_iff, List.zipIdx_map_snd]
    exact List.nodup_range'
  exact ordered.imp₂ (fun _ _ => ageBefore_of_zipIdxLE) (List.pairwise_map.mp places)

theorem eq_byAge {b : Buffer} {tagged : List (Entry × Nat)} (perm : tagged.Perm b.entries.zipIdx)
    (sorted : AgeSorted tagged) : tagged = b.byAge :=
  AgeSorted.eq (perm.trans b.byAge_perm.symm) sorted b.ageSorted_byAge

theorem oldestFirst_eq_byAge (b : Buffer) : b.oldestFirst = b.byAge.map (·.1) :=
  List.mergeSort_zipIdx.symm

theorem newestFirst_sorted (b : Buffer) :
    (b.newestFirst none).Pairwise fun x y => decide (y.timestamp ≤ x.timestamp) = true :=
  List.pairwise_mergeSort Entry.later_trans Entry.later_total _

theorem newestFirst_perm (b : Buffer) : (b.newestFirst none).Perm b.entries :=
  (List.mergeSort_perm _ _).trans (List.reverse_perm _)

/-- Newest first is oldest first reversed: both sorts are stable, and one sorts the entries
reversed. -/
theorem newestFirst_none (b : Buffer) : b.newestFirst none = b.oldestFirst.reverse := by
  have newest : (b.newestFirst none).reverse.Pairwise fun x y => x.timestamp ≤ y.timestamp :=
    List.pairwise_reverse.mpr ((b.newestFirst_sorted).imp fun ordered => by simpa using ordered)
  have oldest : b.oldestFirst.Pairwise fun x y => x.timestamp ≤ y.timestamp :=
    (List.pairwise_mergeSort Entry.earlier_trans Entry.earlier_total _).imp fun ordered => by simpa using ordered
  rw [← List.reverse_reverse (b.newestFirst none), eq_of_groups newest oldest fun time => ?_]
  rw [List.filter_reverse]
  simp only [newestFirst, oldestFirst]
  rw [filter_mergeSort_of_tied Entry.later_trans Entry.later_total fun x y first second =>
      Entry.tied_at time y x second first,
    filter_mergeSort_of_tied Entry.earlier_trans Entry.earlier_total (Entry.tied_at time), List.filter_reverse,
    List.reverse_reverse]

end Buffer

def upTo {α : Type} (limit : Option Nat) (l : List α) : List α := l.take (limit.getD l.length)

theorem isPrefix_upTo {α : Type} (limit : Option Nat) (l : List α) : upTo limit l <+: l := List.take_prefix _ _

theorem length_upTo {α : Type} (limit : Option Nat) (l : List α) :
    (upTo limit l).length = min (limit.getD l.length) l.length :=
  List.length_take

theorem upTo_eq_match {α : Type} (limit : Option Nat) (l : List α) :
    (match limit with
      | some n => l.take n
      | none => l) = upTo limit l := by
  cases limit with
  | some n => rfl
  | none => exact List.take_length.symm

namespace Buffer

theorem newestFirst_eq (b : Buffer) (limit : Option Nat) :
    b.newestFirst limit = upTo limit (b.byAge.reverse.map (·.1)) := by
  rw [List.map_reverse, ← oldestFirst_eq_byAge, ← newestFirst_none]
  exact upTo_eq_match limit _

end Buffer

namespace Service

def allVisible (s : Service) : List Entry := s.readers.flatMap fun p => p.2.buffer.entries.filter fun e => !s.settings.hides e

/-- The entries of one reader or of all that views show, each reader's newest first, sorted by
time alone, the latest first. -/
def shownByTime (s : Service) (id : Option ReaderId) (place : ReaderId → Nat) : List Entry :=
  ((s.collect id place).filter fun e => !s.settings.hides e).mergeSort fun x y => decide (y.timestamp ≤ x.timestamp)

theorem traces_eq (s : Service) (id : Option ReaderId) (limit : Option Nat) (place : ReaderId → Nat) :
    s.traces id limit place = upTo limit (s.shownByTime id place) :=
  upTo_eq_match limit _

theorem shownByTime_sorted (s : Service) (id : Option ReaderId) (place : ReaderId → Nat) :
    (s.shownByTime id place).Pairwise fun x y => decide (y.timestamp ≤ x.timestamp) = true :=
  List.pairwise_mergeSort Entry.later_trans Entry.later_total _

theorem shownByTime_some (s : Service) (r : ReaderId) (place : ReaderId → Nat) :
    s.shownByTime (some r) place =
      (((s.trace? r).map fun t => t.buffer.byAge.reverse.map (·.1)).getD []).filter fun e => !s.settings.hides e := by
  cases found : s.trace? r with
  | none => simp [shownByTime, collect, found]
  | some t =>
    have sorted : ((t.buffer.newestFirst none).filter fun e => !s.settings.hides e).Pairwise
        fun x y => decide (y.timestamp ≤ x.timestamp) = true :=
      t.buffer.newestFirst_sorted.sublist List.filter_sublist
    simp only [shownByTime, collect, found, Option.map_some, Option.getD_some]
    rw [List.mergeSort_of_pairwise sorted, t.buffer.newestFirst_eq]
    exact congrArg _ List.take_length

theorem shownByTime_none_perm (s : Service) (place : ReaderId → Nat) : (s.shownByTime none place).Perm s.allVisible := by
  refine (List.mergeSort_perm _ _).trans ?_
  simp only [collect, allVisible, List.filter_flatMap]
  exact ((s.visit_perm place).flatMap_right _).trans
    (List.Perm.flatMap_left _ fun p _ => p.2.buffer.newestFirst_perm.filter _)

theorem length_traces_none (s : Service) (limit : Option Nat) (place : ReaderId → Nat) :
    (s.traces none limit place).length = min (limit.getD s.allVisible.length) s.allVisible.length := by
  rw [traces_eq, length_upTo, (s.shownByTime_none_perm place).length_eq]

theorem traces_none_sorted (s : Service) (limit : Option Nat) (place : ReaderId → Nat) :
    (s.traces none limit place).Pairwise fun x y => y.timestamp ≤ x.timestamp := by
  rw [traces_eq]
  exact ((s.shownByTime_sorted none place).sublist (isPrefix_upTo _ _).sublist).imp fun ordered => by
    simpa using ordered

theorem traces_none_left_out (s : Service) (limit : Option Nat) (place : ReaderId → Nat) :
    ∃ rest, (s.traces none limit place ++ rest).Perm s.allVisible ∧
      ∀ e ∈ rest, ∀ last ∈ (s.traces none limit place).getLast?, e.timestamp ≤ last.timestamp := by
  -- the traces are a prefix of the sorted shown entries, and the rest of them is what they leave out
  obtain ⟨rest, whole⟩ := isPrefix_upTo limit (s.shownByTime none place)
  have sorted := s.shownByTime_sorted none place
  rw [← whole, List.pairwise_append] at sorted
  rw [traces_eq]
  refine ⟨rest, ?_, fun e left last given => ?_⟩
  · rw [whole]
    exact s.shownByTime_none_perm place
  · simpa using sorted.2.2 last (List.mem_of_getLast? given) e left

/-- Every entry in the buffer of a reader was recorded for that reader. -/
def Owned (s : Service) : Prop := ∀ p ∈ s.readers, ∀ e ∈ p.2.buffer.entries, e.readerId = p.1

theorem Owned.of_subset {s' s : Service} (owned : Owned s)
    (within : ∀ q ∈ s'.readers, ∃ p ∈ s.readers, q.1 = p.1 ∧ q.2.buffer.entries ⊆ p.2.buffer.entries) :
    Owned s' := by
  intro q member e kept
  obtain ⟨p, present, same, smaller⟩ := within q member
  rw [same]
  exact owned p present e (smaller kept)

theorem Owned.of_trims {s' s : Service} (owned : Owned s) (trims : Trims s' s) : Owned s' :=
  owned.of_subset fun _ member =>
    let ⟨p, present, same, shorter⟩ := trims.mem member
    ⟨p, present, same, shorter.2.subset⟩

theorem owned_new (settings : Settings) : Owned (new settings) := by
  simp [Owned, new]

theorem Owned.start {s : Service} (owned : Owned s) (id : ReaderId) : Owned (s.start id) := by
  intro q member e kept
  rcases mem_start member with rfl | old
  · simp [Buffer.empty] at kept
  · exact owned q old e kept

theorem Owned.startAll {s : Service} (owned : Owned s) (directory : Option (List ReaderId)) :
    Owned (s.startAll directory).1 := by
  cases directory with
  | none => exact owned
  | some listed =>
    show Owned (listed.foldl Service.start s)
    induction listed generalizing s with
    | nil => exact owned
    | cons id rest ih => exact ih (owned.start id)

theorem Owned.remove {s : Service} (owned : Owned s) (id : ReaderId) : Owned (s.remove id) :=
  owned.of_subset fun q member => ⟨q, List.mem_of_mem_filter member, rfl, List.Subset.refl _⟩

theorem Owned.modifyTrace {s : Service} (owned : Owned s) {id : ReaderId} {f : ReaderTrace → ReaderTrace}
    (keeps : ∀ t, ∀ e ∈ (f t).buffer.entries, e ∈ t.buffer.entries ∨ e.readerId = id) :
    Owned (s.modifyTrace id f) := by
  intro q member e kept
  obtain ⟨p, present, rfl⟩ := List.mem_map.mp member
  by_cases hit : p.1 = id
  · rw [if_pos (beq_iff_eq.mpr hit)] at kept ⊢
    rcases keeps p.2 e kept with old | fresh
    · exact owned p present e old
    · exact fresh.trans hit.symm
  · rw [if_neg (by simpa using hit)] at kept ⊢
    exact owned p present e kept

theorem readerId_of_built {decode : List UInt8 → Option Frame} {c : Capture} {previous : Option Instant}
    {settings : Settings} {e : Entry} (built : buildEntry decode c previous settings = .built e) :
    e.readerId = c.readerId := by
  cases decoded : decode c.bytes with
  | none =>
    rw [buildEntry_dropped.mpr decoded] at built
    cases built
  | some frame =>
    obtain ⟨e', built', records⟩ := @buildEntry_built decode c previous settings frame decoded
    rw [built'] at built
    cases built
    exact records.readerId

theorem Owned.capture {s : Service} (owned : Owned s) (decode : List UInt8 → Option Frame) (c : Capture)
    (place : ReaderId → Nat) : Owned (s.capture decode c place).1 := by
  unfold Service.capture
  split
  · exact owned
  · split
    · exact owned
    · split
      · exact owned
      · rename_i e built
        -- the new entry was recorded for the capture's reader, into whose buffer it goes
        refine Owned.of_trims (owned.modifyTrace fun t x kept => ?_) (trims_enforceGlobalLimit _ _ place)
        rcases List.mem_append.mp ((Buffer.add_drops t.buffer e).suffix.subset kept) with old | fresh
        · exact Or.inl old
        · rw [List.mem_singleton.mp fresh]
          exact Or.inr (readerId_of_built built)

theorem Owned.updateSettings {s : Service} (owned : Owned s) (settings : Settings) (place : ReaderId → Nat) :
    Owned (s.updateSettings settings place) := by
  refine Owned.of_trims (owned.of_subset fun q member => ?_) (trims_enforceGlobalLimit _ _ place)
  obtain ⟨p, present, rfl⟩ := mem_modifyTraces member
  exact ⟨p, present, rfl, (Buffer.applyLimits_drops p.2.buffer _).suffix.subset⟩

theorem Owned.perform {s : Service} (owned : Owned s) (decode : List UInt8 → Option Frame) (command : Command) :
    Owned (s.perform decode command) := by
  cases command with
  | start id => exact owned.start id
  | stop id => exact owned
  | startAll directory => exact owned.startAll directory
  | stopAll => exact owned
  | remove id => exact owned.remove id
  | clear id => exact owned.of_trims (trims_clear s id)
  | capture c place => exact owned.capture decode c place
  | updateSettings settings place => exact owned.updateSettings settings place
  | sweep now => exact owned.of_trims (trims_sweep s now)

theorem Owned.run {s : Service} (owned : Owned s) (decode : List UInt8 → Option Frame) (commands : List Command) :
    Owned (s.run decode commands) := by
  induction commands generalizing s with
  | nil => exact owned
  | cons command rest ih => exact ih (owned.perform decode command)

/-- Where every entry sits with the reader it was recorded for and each reader is listed once,
the entries of all readers that were recorded for one reader are that reader's own. -/
theorem filter_flatMap_newestFirst {readers : List (ReaderId × ReaderTrace)}
    (owned : ∀ p ∈ readers, ∀ e ∈ p.2.buffer.entries, e.readerId = p.1) (nodup : (readers.map Prod.fst).Nodup)
    (r : ReaderId) (q : Entry → Bool) :
    (readers.flatMap (·.2.buffer.newestFirst none)).filter (fun e => decide (e.readerId = r) && q e) =
      (((readers.find? (·.1 == r)).map (·.2.buffer.newestFirst none)).getD []).filter q := by
  induction readers with
  | nil => rfl
  | cons p rest ih =>
    have own : ∀ e ∈ p.2.buffer.newestFirst none, e.readerId = p.1 := fun e member =>
      owned p List.mem_cons_self e (p.2.buffer.newestFirst_perm.subset member)
    rw [List.map_cons, List.nodup_cons] at nodup
    rw [List.flatMap_cons, List.filter_append, List.find?_cons]
    by_cases hit : p.1 = r
    · -- the reader itself comes first, and no later reader holds its entries
      have others : (rest.flatMap (·.2.buffer.newestFirst none)).filter
          (fun e => decide (e.readerId = r) && q e) = [] := by
        rw [List.filter_eq_nil_iff]
        intro e member
        obtain ⟨p', present, held⟩ := List.mem_flatMap.mp member
        have apart : p'.1 ≠ r := fun same => nodup.1 (hit ▸ same ▸ List.mem_map_of_mem present)
        simp [owned p' (List.mem_cons_of_mem _ present) e (p'.2.buffer.newestFirst_perm.subset held), apart]
      rw [others, List.append_nil]
      simp only [hit, beq_self_eq_true, Option.map_some, Option.getD_some]
      exact List.filter_congr fun e member => by simp [own e member, hit]
    · have mine : (p.2.buffer.newestFirst none).filter (fun e => decide (e.readerId = r) && q e) = [] :=
        List.filter_eq_nil_iff.mpr fun e member => by simp [own e member, hit]
      have skipped : (p.1 == r) = false := beq_eq_false_iff_ne.mpr hit
      rw [mine, List.nil_append, ih (fun p' present => owned p' (List.mem_cons_of_mem _ present)) nodup.2, skipped]

theorem Owned.filter_collect {s : Service} (owned : Owned s) (nodup : s.ids.Nodup) (r : ReaderId)
    (q : Entry → Bool) (place : ReaderId → Nat) :
    (s.collect none place).filter (fun e => decide (e.readerId = r) && q e) = (s.collect (some r) place).filter q := by
  simp only [collect, trace?, Option.map_map, ← find?_visit nodup place]
  exact filter_flatMap_newestFirst (fun p member => owned p (mem_visit.mp member)) (visit_ids_nodup nodup place) r q

/-- Where every entry sits with its own reader, the traces of all readers list the entries of
one reader and one time as the traces of that reader alone do, the one added later first, whatever
order the visit takes the readers in. -/
theorem Owned.traces_none_at {s : Service} (owned : Owned s) (nodup : s.ids.Nodup) (r : ReaderId)
    (time : Instant) (limit : Option Nat) (place : ReaderId → Nat) :
    (s.traces none limit place).filter (fun e => e.readerId = r ∧ e.timestamp = time) <+:
      ((s.visible r).filter (·.timestamp = time)).reverse := by
  have tied : ∀ a b : Entry, decide (a.readerId = r ∧ a.timestamp = time) = true →
      decide (b.readerId = r ∧ b.timestamp = time) = true → decide (b.timestamp ≤ a.timestamp) = true := by
    intro a b first second
    simp only [decide_eq_true_eq] at first second ⊢
    rw [first.2, second.2]
    exact Instant.le_refl time
  have whole : (s.shownByTime none place).filter (fun e => e.readerId = r ∧ e.timestamp = time) =
      ((s.visible r).filter (·.timestamp = time)).reverse := by
    rw [← collect_visible_at s r time place, shownByTime,
      filter_mergeSort_of_tied Entry.later_trans Entry.later_total tied, List.filter_filter, List.filter_filter,
      ← owned.filter_collect nodup r (fun e => decide (e.timestamp = time) && !s.settings.hides e) place]
    refine List.filter_congr fun e _ => ?_
    simp only [Bool.decide_and]
    cases s.settings.hides e <;> simp [Bool.and_comm]
  rw [traces_eq, ← whole]
  exact (isPrefix_upTo _ _).filter _

end Service

/-- The views of traced entries. For every buffer, its entries tagged with their places of
insertion and put in order of age are an arrangement of them in strictly increasing order of
time and then of place; the oldest-first view is that order, and the newest-first view is its
reverse cut to the limit, so that with no limit it is the oldest-first view reversed. In every
service reached by commands, and whatever order the reader map is visited in, the traces of one
reader are the entries of its buffer that views show, in that newest-first order and cut to the
limit, and none for a reader without a trace.
The traces of all readers are as many of the entries views show as the limit allows, the latest
first; with the shown entries they leave out they make up all of them, each as often as it is
held, and none left out is later than the last one given. At each time they list the entries of
one reader as a prefix of those that reader shows at that time, the one added later first. -/
theorem views_in_order_of_age (b : Buffer) (settings : Settings) (decode : List UInt8 → Option Frame)
    (commands : List Command) (r : ReaderId) (limit : Option Nat) (time : Instant) (place : ReaderId → Nat) :
    let s := (Service.new settings).run decode commands
    b.byAge.Perm b.entries.zipIdx ∧ AgeSorted b.byAge ∧
    b.oldestFirst = b.byAge.map (·.1) ∧
    b.newestFirst limit = upTo limit (b.byAge.reverse.map (·.1)) ∧
    b.newestFirst none = b.oldestFirst.reverse ∧
    s.traces (some r) limit place =
      upTo limit ((((s.trace? r).map fun t => t.buffer.byAge.reverse.map (·.1)).getD []).filter
        fun e => !s.settings.hides e) ∧
    (s.traces none limit place).length = min (limit.getD s.allVisible.length) s.allVisible.length ∧
    (∃ rest, (s.traces none limit place ++ rest).Perm s.allVisible ∧
      ∀ e ∈ rest, ∀ last ∈ (s.traces none limit place).getLast?, e.timestamp ≤ last.timestamp) ∧
    (s.traces none limit place).Pairwise (fun x y => y.timestamp ≤ x.timestamp) ∧
    (s.traces none limit place).filter (fun e => e.readerId = r ∧ e.timestamp = time) <+:
      ((s.visible r).filter (·.timestamp = time)).reverse := by
  intro s
  have invariant : s.Invariant := (Service.invariant_new settings).run decode commands
  have owned : s.Owned := (Service.owned_new settings).run decode commands
  refine ⟨b.byAge_perm, b.ageSorted_byAge, b.oldestFirst_eq_byAge, b.newestFirst_eq limit, b.newestFirst_none, ?_,
    s.length_traces_none limit place, s.traces_none_left_out limit place, s.traces_none_sorted limit place,
    owned.traces_none_at invariant.ascending.nodup r time limit place⟩
  rw [Service.traces_eq, Service.shownByTime_some]

end OsdpTrace
