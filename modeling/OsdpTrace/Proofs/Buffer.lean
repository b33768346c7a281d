import OsdpTrace.Trace.Buffer

/-! Trace buffers keep the latest entries added since they were last cleared.
Every operation drops entries from the head only and reports how many it dropped; adding drops
exactly the excess over the capacity, so no entry is lost elsewhere, doubled or reordered, and
a buffer never holds more than the capacity of the limits in force. The stored memory estimate
stays at 192 bytes an entry: every edit either sets it anew from the entries, or, clearing, sets
it to zero with no entry left, or, sweeping without a cutoff, changes neither. -/
namespace OsdpTrace

theorem Limits.capacity_pos (l : Limits) : 0 < l.capacity := by
  unfold Limits.capacity
  omega

namespace Buffer

@[simp] theorem length_eq (b : Buffer) : b.length = b.entries.length := rfl

@[simp] theorem recomputeMemory_entries (b : Buffer) : b.recomputeMemory.entries = b.entries := rfl

@[simp] theorem recomputeMemory_limits (b : Buffer) : b.recomputeMemory.limits = b.limits := rfl

@[simp] theorem empty_entries (l : Limits) : (empty l).entries = [] := rfl

@[simp] theorem empty_limits (l : Limits) : (empty l).limits = l := rfl

@[simp] theorem trimTo_limits (b : Buffer) (capacity : Nat) : (b.trimTo capacity).1.limits = b.limits := rfl

@[simp] theorem add_limits (b : Buffer) (e : Entry) : (b.add e).1.limits = b.limits := rfl

@[simp] theorem evictOldest_limits (b : Buffer) (count : Nat) :
    (b.evictOldest count).1.limits = b.limits := rfl

@[simp] theorem applyLimits_limits (b : Buffer) (l : Limits) : (b.applyLimits l).1.limits = l := rfl

@[simp] theorem clear_limits (b : Buffer) : b.clear.limits = b.limits := rfl

@[simp] theorem clear_entries (b : Buffer) : b.clear.entries = [] := rfl

@[simp] theorem sweep_limits (b : Buffer) (now : Instant) : (b.sweep now).1.limits = b.limits := by
  unfold sweep
  split <;> rfl

@[simp] theorem add_count (b : Buffer) (e : Entry) :
    (b.add e).2 = b.entries.length + 1 - b.limits.capacity := by
  simp [add, trimTo]

@[simp] theorem evictOldest_count (b : Buffer) (count : Nat) :
    (b.evictOldest count).2 = min count b.entries.length := rfl

@[simp] theorem applyLimits_count (b : Buffer) (l : Limits) :
    (b.applyLimits l).2 = b.entries.length - l.capacity := rfl

/-- An operation's result keeps `before` less its first `count` entries, where `count` is the
number it reports. -/
def DropsHead (before : List Entry) (result : Buffer × Nat) : Prop :=
  result.2 ≤ before.length ∧ result.1.entries = before.drop result.2

theorem DropsHead.suffix {before : List Entry} {result : Buffer × Nat} (drops : DropsHead before result) :
    result.1.entries <:+ before := by
  rw [drops.2]
  exact List.drop_suffix _ _

theorem DropsHead.length_add {before : List Entry} {result : Buffer × Nat}
    (drops : DropsHead before result) : result.1.entries.length + result.2 = before.length := by
  rw [drops.2, List.length_drop]
  have := drops.1
  omega

theorem trimTo_drops (b : Buffer) (capacity : Nat) : DropsHead b.entries (b.trimTo capacity) :=
  ⟨by simp [trimTo], rfl⟩

theorem trimTo_length_le (b : Buffer) (capacity : Nat) : (b.trimTo capacity).1.entries.length ≤ capacity := by
  simp [trimTo]
  omega

theorem add_drops (b : Buffer) (e : Entry) : DropsHead (b.entries ++ [e]) (b.add e) :=
  trimTo_drops _ _

theorem add_length_le (b : Buffer) (e : Entry) : (b.add e).1.entries.length ≤ b.limits.capacity :=
  trimTo_length_le _ _

theorem add_last (b : Buffer) (e : Entry) : (b.add e).1.last? = some e := by
  have positive := Limits.capacity_pos b.limits
  have kept : ¬(b.entries ++ [e]).length ≤ (b.add e).2 := by
    simp
    omega
  simp only [last?, (add_drops b e).2, List.getLast?_drop, kept, if_false]
  simp

theorem add_eq_append_or_evict (b : Buffer) (e : Entry) (bounded : b.entries.length ≤ b.limits.capacity) :
    (b.entries.length < b.limits.capacity ∧ (b.add e).1 = { b with entries := b.entries ++ [e] }.recomputeMemory) ∨
      (b.entries.length = b.limits.capacity ∧
        (b.add e).1 = ({ b with entries := b.entries ++ [e] }.evictOldest 1).1) := by
  rcases Nat.lt_or_eq_of_le bounded with room | full
  · left
    refine ⟨room, ?_⟩
    have nothing : b.entries.length + 1 - b.limits.capacity = 0 := by omega
    simp [add, trimTo, nothing, recomputeMemory]
  · right
    refine ⟨full, ?_⟩
    have one : b.entries.length + 1 - b.limits.capacity = 1 := by omega
    simp [add, trimTo, evictOldest, one]

theorem evictOldest_drops (b : Buffer) (count : Nat) : DropsHead b.entries (b.evictOldest count) :=
  ⟨Nat.min_le_right _ _, rfl⟩

theorem applyLimits_drops (b : Buffer) (l : Limits) : DropsHead b.entries (b.applyLimits l) :=
  trimTo_drops _ _

theorem applyLimits_length_le (b : Buffer) (l : Limits) : (b.applyLimits l).1.entries.length ≤ l.capacity :=
  trimTo_length_le _ _

theorem sweep_drops (b : Buffer) (now : Instant) : DropsHead b.entries (b.sweep now) := by
  unfold sweep
  split
  · exact ⟨Nat.zero_le _, rfl⟩
  · exact ⟨by simp, List.suffix_iff_eq_drop.mp (List.dropWhile_suffix _)⟩

/-- The memory estimate of a buffer counts 192 bytes for each entry it holds. -/
def Exact (b : Buffer) : Prop := b.memory = entryBytes * b.length

theorem exact_recomputeMemory (b : Buffer) : b.recomputeMemory.Exact := rfl

theorem exact_empty (l : Limits) : (empty l).Exact := rfl

theorem exact_clear (b : Buffer) : b.clear.Exact := rfl

theorem exact_add (b : Buffer) (e : Entry) : (b.add e).1.Exact := exact_recomputeMemory _

theorem exact_evictOldest (b : Buffer) (count : Nat) : (b.evictOldest count).1.Exact := exact_recomputeMemory _

theorem exact_applyLimits (b : Buffer) (l : Limits) : (b.applyLimits l).1.Exact := exact_recomputeMemory _

/-- A sweep sets the estimate anew only when there is a cutoff; without one it keeps the estimate
it found, so only an exact estimate stays exact. -/
theorem Exact.sweep {b : Buffer} (exact : b.Exact) (now : Instant) : (b.sweep now).1.Exact := by
  unfold Buffer.sweep
  split
  · exact exact
  · exact exact_recomputeMemory _

theorem Exact.edit {b : Buffer} (exact : b.Exact) : ∀ edit, (b.edit edit).Exact
  | .add e => exact_add b e
  | .sweep now => exact.sweep now
  | .evictOldest count => exact_evictOldest b count
  | .clear => exact_clear b
  | .applyLimits l => exact_applyLimits b l

theorem Exact.editAll {b : Buffer} (exact : b.Exact) (edits : List Edit) : (b.editAll edits).Exact := by
  induction edits generalizing b with
  | nil => exact exact
  | cons edit rest ih => exact ih (exact.edit edit)

def Edit.record (added : List Entry) : Edit → List Entry
  | .add e => added ++ [e]
  | .clear => []
  | _ => added

def history (edits : List Edit) : List Entry := edits.foldl Edit.record []

/-- What a buffer holds of the entries `added` since it was created or last cleared. -/
structure Keeps (added : List Entry) (b : Buffer) : Prop where
  suffix : b.entries <:+ added
  bounded : b.entries.length ≤ b.limits.capacity

theorem keeps_empty (l : Limits) : Keeps [] (empty l) :=
  ⟨List.nil_suffix, by simp⟩

theorem Keeps.drops {added : List Entry} {b : Buffer} {result : Buffer × Nat} (keeps : Keeps added b)
    (drops : DropsHead b.entries result) (limits : result.1.limits = b.limits) : Keeps added result.1 := by
  constructor
  · exact drops.suffix.trans keeps.suffix
  · have := drops.length_add
    have := keeps.bounded
    rw [limits]
    omega

theorem Keeps.edit {added : List Entry} {b : Buffer} (keeps : Keeps added b) (edit : Edit) :
    Keeps (edit.record added) (b.edit edit) := by
  cases edit with
  | add e =>
    constructor
    · obtain ⟨front, equal⟩ := keeps.suffix
      have grown : b.entries ++ [e] <:+ added ++ [e] := ⟨front, by rw [← List.append_assoc, equal]⟩
      exact (add_drops b e).suffix.trans grown
    · exact add_length_le b e
  | sweep now => exact keeps.drops (sweep_drops b now) (sweep_limits b now)
  | evictOldest count => exact keeps.drops (evictOldest_drops b count) rfl
  | clear => exact ⟨List.nil_suffix, Nat.zero_le _⟩
  | applyLimits l => exact ⟨(applyLimits_drops b l).suffix.trans keeps.suffix, applyLimits_length_le b l⟩

theorem Keeps.editAll {added : List Entry} {b : Buffer} (keeps : Keeps added b) (edits : List Edit) :
    Keeps (edits.foldl Edit.record added) (b.editAll edits) := by
  induction edits generalizing added b with
  | nil => exact keeps
  | cons edit rest ih => exact ih (keeps.edit edit)

theorem keeps_history (limits : Limits) (edits : List Edit) :
    Keeps (history edits) ((empty limits).editAll edits) :=
  (keeps_empty limits).editAll edits

theorem entries_addAll (b : Buffer) (bounded : b.entries.length ≤ b.limits.capacity) (added : List Entry) :
    (b.editAll (added.map .add)).entries =
      (b.entries ++ added).drop (b.entries.length + added.length - b.limits.capacity) := by
  induction added generalizing b with
  | nil => simp [editAll, Nat.sub_eq_zero_of_le bounded]
  | cons e rest ih =>
    have step : (b.edit (.add e)).entries.length ≤ (b.edit (.add e)).limits.capacity := add_length_le b e
    change ((b.edit (.add e)).editAll (rest.map .add)).entries = _
    rw [ih _ step]
    have drops := add_drops b e
    have within : (b.add e).2 ≤ (b.entries ++ [e]).length := drops.1
    have sizes := drops.length_add
    simp only [edit, drops.2, add_limits] at step ⊢
    rw [← List.drop_append_of_le_length within, List.drop_drop, List.append_assoc, List.singleton_append]
    congr 1
    simp only [List.length_append, List.length_singleton, List.length_drop, add_count] at sizes within ⊢
    have := Limits.capacity_pos b.limits
    simp only [List.length_cons]
    omega

/-- Every run of edits from an empty buffer keeps a suffix of the entries added since its last
clear, within the capacity of the limits in force, and its stored memory estimate is 192 bytes an
entry. Each edit drops entries from the head only, exactly as many as it reports: adding drops the
excess of one more entry over the capacity and keeps the new entry last, setting limits drops the
excess over their capacity, and evicting drops as many as asked, or all. So adds alone into an empty buffer
keep the latest entries, up to the capacity. -/
theorem keeps_latest_added (limits : Limits) (edits : List Edit) (b : Buffer) (e : Entry) (l : Limits)
    (count : Nat) (now : Instant) (added : List Entry) :
    (Keeps (history edits) ((empty limits).editAll edits) ∧
      ((empty limits).editAll edits).memory = entryBytes * ((empty limits).editAll edits).length) ∧
    (DropsHead (b.entries ++ [e]) (b.add e) ∧ (b.add e).2 = b.length + 1 - b.limits.capacity ∧
      (b.add e).1.last? = some e) ∧
    DropsHead b.entries (b.sweep now) ∧
    (DropsHead b.entries (b.evictOldest count) ∧ (b.evictOldest count).2 = min count b.length) ∧
    (DropsHead b.entries (b.applyLimits l) ∧ (b.applyLimits l).2 = b.length - l.capacity) ∧
    ((empty limits).editAll (added.map .add)).entries = added.drop (added.length - limits.capacity) := by
  refine ⟨⟨keeps_history limits edits, (exact_empty limits).editAll edits⟩, ⟨add_drops b e, add_count b e, add_last b e⟩,
    sweep_drops b now, ⟨evictOldest_drops b count, rfl⟩, ⟨applyLimits_drops b l, rfl⟩, ?_⟩
  simpa using entries_addAll (empty limits) (by simp) added

end Buffer

end OsdpTrace
