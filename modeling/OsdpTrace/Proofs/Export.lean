import OsdpTrace.Proofs.GlobalLimit
import OsdpTrace.Trace.Command

/-! The order of exported entries. The query of one reader's traces sorts the visible entries
newest first, and the export sorts them oldest first; both sort the same list, the reader's
entries newest first, and both sorts are stable. So the export holds the entries of the query
in order of time, but entries of the same time come in the query's order in both: the one added
later first. The export is the query reversed exactly when, at every time, the reader's visible
entries read the same in both directions, as when no two of them share a time. -/
namespace OsdpTrace

namespace Instant

theorem le_total (a b : Instant) : a ≤ b ∨ b ≤ a := by
  rw [le_iff, le_iff]
  omega

theorem le_antisymm {a b : Instant} (first : a ≤ b) (second : b ≤ a) : a = b := by
  rw [le_iff] at first second
  have seconds : a.second = b.second := by omega
  have fractions : a.fraction = b.fraction := by omega
  cases a
  cases b
  simp only at seconds fractions
  rw [seconds, fractions]

end Instant

theorem filter_mergeSort_of_tied {α : Type} {le : α → α → Bool}
    (trans : ∀ a b c, le a b = true → le b c = true → le a c = true) (total : ∀ a b, (le a b || le b a) = true)
    {q : α → Bool} (tied : ∀ a b, q a = true → q b = true → le a b = true) (l : List α) :
    (l.mergeSort le).filter q = l.filter q := by
  have sorted : (l.filter q).Pairwise fun a b => le a b = true :=
    List.pairwise_of_forall_mem_list fun a picked b other =>
      tied a b (List.mem_filter.mp picked).2 (List.mem_filter.mp other).2
  have kept : (l.filter q).Sublist ((l.mergeSort le).filter q) := by
    have picked := (List.sublist_mergeSort trans total sorted List.filter_sublist).filter q
    rwa [List.filter_eq_self.mpr fun a member => (List.mem_filter.mp member).2] at picked
  have lengths : (l.filter q).length = ((l.mergeSort le).filter q).length :=
    ((List.mergeSort_perm l le).filter q).length_eq.symm
  exact (kept.eq_of_length lengths).symm

namespace Entry

theorem earlier_trans (a b c : Entry) (first : decide (a.timestamp ≤ b.timestamp) = true)
    (second : decide (b.timestamp ≤ c.timestamp) = true) : decide (a.timestamp ≤ c.timestamp) = true := by
  simp only [decide_eq_true_eq] at *
  exact Instant.le_trans first second

theorem earlier_total (a b : Entry) : (decide (a.timestamp ≤ b.timestamp) || decide (b.timestamp ≤ a.timestamp)) = true := by
  simp only [Bool.or_eq_true, decide_eq_true_eq]
  exact Instant.le_total a.timestamp b.timestamp

theorem later_trans (a b c : Entry) (first : decide (b.timestamp ≤ a.timestamp) = true)
    (second : decide (c.timestamp ≤ b.timestamp) = true) : decide (c.timestamp ≤ a.timestamp) = true :=
  earlier_trans c b a second first

theorem later_total (a b : Entry) : (decide (b.timestamp ≤ a.timestamp) || decide (a.timestamp ≤ b.timestamp)) = true := by
  rw [Bool.or_comm]
  exact earlier_total a b

theorem tied_at (time : Instant) (a b : Entry) (first : decide (a.timestamp = time) = true)
    (second : decide (b.timestamp = time) = true) : decide (a.timestamp ≤ b.timestamp) = true := by
  simp only [decide_eq_true_eq] at first second ⊢
  rw [first, second]
  exact Instant.le_refl time

end Entry

theorem head_le_of_mem {b x : Entry} {rest : List Entry}
    (sorted : (b :: rest).Pairwise fun x y => x.timestamp ≤ y.timestamp) (member : x ∈ b :: rest) :
    b.timestamp ≤ x.timestamp := by
  rcases List.mem_cons.mp member with rfl | later
  · exact Instant.le_refl _
  · exact List.rel_of_pairwise_cons sorted later

/-- Two lists of entries in order of time that hold, at every time, the same entries in the same
order are the same list. -/
theorem eq_of_groups {l₁ l₂ : List Entry}
    (sorted₁ : l₁.Pairwise fun x y => x.timestamp ≤ y.timestamp)
    (sorted₂ : l₂.Pairwise fun x y => x.timestamp ≤ y.timestamp)
    (groups : ∀ time, l₁.filter (·.timestamp = time) = l₂.filter (·.timestamp = time)) : l₁ = l₂ := by
  induction l₁ generalizing l₂ with
  | nil =>
    cases l₂ with
    | nil => rfl
    | cons b others => simpa using groups b.timestamp
  | cons a rest ih =>
    cases l₂ with
    | nil => simpa using groups a.timestamp
    | cons b others =>
      -- each head lies in the other list, so neither is later than the other
      have a_there : a ∈ b :: others := by
        have picked : a ∈ (b :: others).filter (·.timestamp = a.timestamp) := by
          rw [← groups]
          simp
        exact (List.mem_filter.mp picked).1
      have b_there : b ∈ a :: rest := by
        have picked : b ∈ (a :: rest).filter (·.timestamp = b.timestamp) := by
          rw [groups]
          simp
        exact (List.mem_filter.mp picked).1
      have same : b.timestamp = a.timestamp :=
        Instant.le_antisymm (head_le_of_mem sorted₂ a_there) (head_le_of_mem sorted₁ b_there)
      have tails : ∀ time, (a :: rest).filter (·.timestamp = time) = (b :: others).filter (·.timestamp = time) →
          (time = a.timestamp → a = b) ∧ rest.filter (·.timestamp = time) = others.filter (·.timestamp = time) := by
        intro time both
        by_cases now : a.timestamp = time
        · have now' : b.timestamp = time := same.trans now
          simp only [List.filter_cons, now, now', decide_true, if_true] at both
          exact ⟨fun _ => (List.cons.inj both).1, (List.cons.inj both).2⟩
        · have now' : ¬b.timestamp = time := fun equal => now (same.symm.trans equal)
          simp only [List.filter_cons, now, now', decide_false, if_false, Bool.false_eq_true] at both
          exact ⟨fun equal => absurd equal.symm now, both⟩
      rw [(tails a.timestamp (groups a.timestamp)).1 rfl,
        ih sorted₁.of_cons sorted₂.of_cons fun time => (tails time (groups time)).2]

namespace Service

def visible (s : Service) (id : ReaderId) : List Entry :=
  ((s.trace? id).map fun t => t.buffer.entries.filter fun e => !s.settings.hides e).getD []

/-- Among the entries of a reader taken newest first, those of one time that views show come in
the reverse of the order they were added. -/
theorem collect_visible_at (s : Service) (id : ReaderId) (time : Instant) (place : ReaderId → Nat) :
    ((s.collect (some id) place).filter fun e => !s.settings.hides e).filter (·.timestamp = time) =
      ((s.visible id).filter (·.timestamp = time)).reverse := by
  cases found : s.trace? id with
  | none => simp [collect, visible, found]
  | some t =>
    have tied : ∀ a b : Entry, (decide (a.timestamp = time) && !s.settings.hides a) = true →
        (decide (b.timestamp = time) && !s.settings.hides b) = true → decide (b.timestamp ≤ a.timestamp) = true :=
      fun a b first second =>
        Entry.tied_at time b a (Bool.and_eq_true _ _ |>.mp second).1 (Bool.and_eq_true _ _ |>.mp first).1
    simp only [collect, visible, found, Option.map_some, Option.getD_some, Buffer.newestFirst, List.filter_filter]
    rw [filter_mergeSort_of_tied Entry.later_trans Entry.later_total tied, List.filter_reverse]

theorem traces_at (s : Service) (id : ReaderId) (time : Instant) (place : ReaderId → Nat) :
    (s.traces (some id) none place).filter (·.timestamp = time) = ((s.visible id).filter (·.timestamp = time)).reverse := by
  simp only [traces]
  rw [filter_mergeSort_of_tied Entry.later_trans Entry.later_total fun a b first second =>
    Entry.tied_at time b a second first, collect_visible_at]

theorem exportEntries_at (s : Service) (id : ReaderId) (time : Instant) (place : ReaderId → Nat) :
    (s.exportEntries (some id) place).filter (·.timestamp = time) = ((s.visible id).filter (·.timestamp = time)).reverse := by
  simp only [exportEntries]
  rw [filter_mergeSort_of_tied Entry.earlier_trans Entry.earlier_total (Entry.tied_at time), collect_visible_at]

theorem exportEntries_sorted (s : Service) (id : Option ReaderId) (place : ReaderId → Nat) :
    (s.exportEntries id place).Pairwise fun x y => x.timestamp ≤ y.timestamp :=
  (List.pairwise_mergeSort Entry.earlier_trans Entry.earlier_total _).imp fun ordered => by simpa using ordered

theorem traces_sorted (s : Service) (id : Option ReaderId) (place : ReaderId → Nat) :
    (s.traces id none place).Pairwise fun x y => y.timestamp ≤ x.timestamp :=
  (List.pairwise_mergeSort Entry.later_trans Entry.later_total _).imp fun ordered => by simpa using ordered

theorem exportEntries_perm_traces (s : Service) (id : Option ReaderId) (place : ReaderId → Nat) :
    (s.exportEntries id place).Perm (s.traces id none place) :=
  (List.mergeSort_perm _ _).trans (List.mergeSort_perm _ _).symm

theorem exportEntries_eq_reverse_iff (s : Service) (id : ReaderId) (place : ReaderId → Nat) :
    s.exportEntries (some id) place = (s.traces (some id) none place).reverse ↔
      ∀ time, ((s.visible id).filter (·.timestamp = time)).reverse = (s.visible id).filter (·.timestamp = time) := by
  constructor
  · intro equal time
    have groups := congrArg (List.filter (·.timestamp = time)) equal
    rwa [exportEntries_at, List.filter_reverse, traces_at, List.reverse_reverse] at groups
  · intro palindromes
    apply eq_of_groups (exportEntries_sorted s _ place) (List.pairwise_reverse.mpr (traces_sorted s _ place))
    intro time
    rw [exportEntries_at, List.filter_reverse, traces_at, List.reverse_reverse, palindromes time]

/-- For every service and every reader, the export holds exactly the entries of the query of the
reader's traces, in order of time, the earlier first; but at every time it lists the reader's
visible entries as the query does, the one added later first, so it is the query reversed
exactly when those entries read the same in both directions at every time. -/
theorem export_order (s : Service) (id : ReaderId) (place : ReaderId → Nat) :
    (s.exportEntries (some id) place).Perm (s.traces (some id) none place) ∧
    (s.exportEntries (some id) place).Pairwise (fun x y => x.timestamp ≤ y.timestamp) ∧
    (∀ time, (s.exportEntries (some id) place).filter (·.timestamp = time) =
        ((s.visible id).filter (·.timestamp = time)).reverse ∧
      (s.traces (some id) none place).filter (·.timestamp = time) =
        ((s.visible id).filter (·.timestamp = time)).reverse) ∧
    (s.exportEntries (some id) place = (s.traces (some id) none place).reverse ↔
      ∀ time, ((s.visible id).filter (·.timestamp = time)).reverse = (s.visible id).filter (·.timestamp = time)) :=
  ⟨exportEntries_perm_traces s _ place, exportEntries_sorted s _ place,
    fun time => ⟨exportEntries_at s id time place, traces_at s id time place⟩, exportEntries_eq_reverse_iff s id place⟩

/-- A request and its reply captured in the same instant for one reader are exported in the
order of the query, the reply first, and not in the reverse of it. -/
theorem export_not_reverse_on_tie :
    let s := (new Settings.default).run Frame.decodeFlagged
      [.start ⟨1⟩, .capture ⟨[1, 0, 0, 0x61], .panel, ⟨1⟩, "Lobby", ⟨1761575400, 0⟩⟩ byId,
        .capture ⟨[1, 0, 0, 0x45], .reader, ⟨1⟩, "Lobby", ⟨1761575400, 0⟩⟩ byId]
    s.exportEntries (some ⟨1⟩) byId ≠ (s.traces (some ⟨1⟩) none byId).reverse := by
  dsimp only
  rw [Ne, exportEntries_eq_reverse_iff]
  intro palindromes
  have tie := palindromes ⟨1761575400, 0⟩
  revert tie
  decide

end Service

end OsdpTrace
